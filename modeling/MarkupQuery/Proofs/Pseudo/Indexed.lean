import MarkupQuery.Proofs.Nodes.Places
import MarkupQuery.Proofs.Number.Integer
import MarkupQuery.Proofs.Pseudo.Suffix

namespace MarkupQuery

open Number Text

namespace Selector

variable {ls : List Lexeme} {l : Lexeme} {c : Call} {s : String}

lemma call_mem_partsOf (plain : List Char) (hl : l ∈ ls) (hc : l.call? = some c) :
    .call c ∈ partsOf plain ls := by
  induction ls generalizing plain with
  | nil => cases hl
  | cons m ls ih =>
    obtain ⟨text, call?⟩ := m
    rcases List.mem_cons.mp hl with rfl | hmem
    · obtain rfl : call? = some c := hc
      simp [partsOf]
    · cases call? with
      | none => exact ih _ hmem
      | some d => simp [partsOf, ih [] hmem]

lemma plain_of_segments {ss : List Segment} (h : segments s = .ok ss)
    (hss : ∀ x ∈ ss, x.call? = none) : Plain s.toList := by
  obtain ⟨ls, hl, hparts, -⟩ := exists_parts_of_segments h
  refine ⟨ls, hl, fun l hmem => ?_⟩
  by_contra hcall
  obtain ⟨c, hc⟩ := Option.ne_none_iff_exists'.mp hcall
  obtain ⟨x, hx, hpart⟩ := List.mem_map.mp (hparts ▸ call_mem_partsOf [] hmem hc)
  have hnone := hss x hx
  cases x <;> simp_all [Segment.part, Segment.call?]

def IsIndex (i : Int) : Prop := (Nat.toDigits 10 i.natAbs).length ≤ digitLimit

instance (i : Int) : Decidable (IsIndex i) := inferInstanceAs (Decidable (_ ≤ _))

def indexArgument (i : Int) : Argument := if i < 0 then .word (toString i) else .number i.toNat

variable {i : Int}

lemma text_indexArgument (i : Int) : (indexArgument i).text = toString i := by
  rw [indexArgument]
  split
  · rfl
  · obtain ⟨n, rfl⟩ := Int.eq_ofNat_of_zero_le (by omega : 0 ≤ i)
    rfl

lemma canonical_indexArgument (h : IsIndex i) : (indexArgument i).Canonical := by
  rw [indexArgument]
  split
  · next hi =>
    have hminus : '-' ∈ spelling i := by
      rw [spelling, if_pos hi]
      exact List.mem_cons_self
    have hblank : ∀ c ∈ spelling i, isBlank c = false := fun c hc => by
      rcases mem_spelling hc with rfl | hdigit
      · decide
      · exact not_isBlank_of_digit hdigit
    refine ⟨fun he => ?_, ?_, ⟨'-', ?_, by decide⟩, fun c hc => ?_⟩
    · rw [← toList_toString, he] at hminus
      cases hminus
    · rw [toList_toString, trim_of_not_blank hblank]
    · rwa [toList_toString]
    · rw [toList_toString] at hc
      have hgap : isGap c = false := isGap_eq_false_of_isBlank (hblank c hc)
      rcases mem_spelling hc with rfl | hdigit
      · decide
      · refine ⟨?_, ?_, ?_, hgap⟩ <;>
        · rintro rfl
          exact absurd hdigit (by decide)
  · rw [IsIndex] at h
    rwa [Argument.Canonical, show i.toNat = i.natAbs by omega]

end Selector

namespace Pseudo

open Selector NodeSet

variable {β : Type} {lib : Library} {home : Nat} {css : String} {context : Value} {s : NodeSet}
  {i a b : Int}

lemma index?_indexArgument (h : IsIndex i) (default : Option Int) :
    (argumentValue (indexArgument i)).index? lib default = .ok (some i) := by
  rw [indexArgument]
  split
  · rw [argumentValue, Value.index?, toList_toString, intOf?_spelling h]
    rfl
  · rw [argumentValue, Value.index?, show ((i.toNat : Nat) : Int) = i by omega]

structure TakesCall (css : String) : Prop where
  plain : Plain css.toList
  not_blank : ¬ Blank css.toList
  ending : css.toList.getLast? ≠ some '\\'

variable (β) in
lemma TakesCall.resolve_indices (h : TakesCall css)
    (hs : Value.query lib home (.text css) context = .ok s) (name : String) (op : Operation)
    (indices : List Int) (hop : builtins.lookup name = some op)
    (hi : ∀ i ∈ indices, IsIndex i) :
    (resolve lib home (.builtin : Registry β)
      (css ++ (⟨name, indices.map indexArgument⟩ : Call).text) context).outcome =
        applyBuiltin lib op s (argumentValues (indices.map indexArgument)) := by
  have hcanonical : ∀ a ∈ indices.map indexArgument, a.Canonical := by
    intro a ha
    obtain ⟨i, hmem, rfl⟩ := List.mem_map.mp ha
    exact canonical_indexArgument (hi i hmem)
  rw [resolve_append_builtin h.plain h.not_blank h.ending hop hcanonical, hs]
  rfl

lemma TakesCall.resolve_eq (h : TakesCall css)
    (hs : Value.query lib home (.text css) context = .ok s) (hi : IsIndex i) :
    (resolve lib home (.builtin : Registry β) (css ++ (":eq(" ++ toString i ++ ")"))
      context).outcome = .ok (s.atIndex i) := by
  have hcall := h.resolve_indices β hs "eq" .eq [i] rfl (by simpa using hi)
  have hindex : (argumentValue (indexArgument i)).index? lib none = .ok (some i) :=
    index?_indexArgument hi none
  have happly : applyBuiltin lib .eq s [argumentValue (indexArgument i)] = .ok (s.atIndex i) := by
    rw [← eq_of_index hindex]
    cases indexArgument i <;> rfl
  simpa [Call.text, text_indexArgument, argumentValues, happly] using hcall

lemma TakesCall.resolve_slice (h : TakesCall css)
    (hs : Value.query lib home (.text css) context = .ok s) (ha : IsIndex a) :
    (resolve lib home (.builtin : Registry β) (css ++ (":slice(" ++ toString a ++ ")"))
      context).outcome = .ok (.ofList s.home (stretch a none s.nodes)) := by
  have hcall := h.resolve_indices β hs "slice" .slice [a] rfl (by simpa using ha)
  have happly : applyBuiltin lib .slice s [argumentValue (indexArgument a)] =
      .ok (.ofList s.home (stretch a none s.nodes)) :=
    slice_of_index (index?_indexArgument ha (some 0)) rfl
  simpa [Call.text, text_indexArgument, argumentValues, happly] using hcall

lemma TakesCall.resolve_slice_until (h : TakesCall css)
    (hs : Value.query lib home (.text css) context = .ok s) (ha : IsIndex a) (hb : IsIndex b) :
    (resolve lib home (.builtin : Registry β)
      (css ++ (":slice(" ++ toString a ++ "," ++ toString b ++ ")")) context).outcome =
        .ok (.ofList s.home (stretch a (some b) s.nodes)) := by
  have hcall := h.resolve_indices β hs "slice" .slice [a, b] rfl
    (by simpa using ⟨ha, hb⟩)
  have happly : applyBuiltin lib .slice s
      [argumentValue (indexArgument a), argumentValue (indexArgument b)] =
        .ok (.ofList s.home (stretch a (some b) s.nodes)) :=
    slice_of_index (index?_indexArgument ha (some 0)) (index?_indexArgument hb (some 0))
  simpa [Call.text, text_indexArgument, argumentValues, happly, String.append_assoc] using hcall

lemma TakesCall.resolve_end (h : TakesCall css)
    (hs : Value.query lib home (.text css) context = .ok s) :
    (resolve lib home (.builtin : Registry β) (css ++ ":first") context).outcome = .ok s.first ∧
      (resolve lib home (.builtin : Registry β) (css ++ ":last") context).outcome = .ok s.last := by
  have hfirst := h.resolve_indices β hs "first" .first [] rfl nofun
  have hlast := h.resolve_indices β hs "last" .last [] rfl nofun
  exact ⟨hfirst, hlast⟩

/-- An index in a call means a place in the list of what the selector before the call leads to. With
`eq` it picks the member at that place, counted from the end if it is negative, and none out of
range; two indices in `slice` cut out what stands between them, and what is before an index and
what is from it on make up the whole list. -/
theorem resolve_indexed (lib : Library) (home : Nat) (css text : String) (position : Nat)
    (x : Css.Selector) (hs : segments css = .ok [.plain text position])
    (hend : css.toList.getLast? ≠ some '\\')
    (hx : Library.selectorOf (Library.anchored css) = .ok x) :
    (∃ s, (resolve lib home (.builtin : Registry β) css .none).outcome = .ok s) ∧
    ∀ context s, (resolve lib home (.builtin : Registry β) css context).outcome = .ok s →
      let followed (call : String) : Except Fault NodeSet :=
        (resolve lib home (.builtin : Registry β) (css ++ call) context).outcome
      (∀ i, IsIndex i → ∃ t, followed (":eq(" ++ toString i ++ ")") = .ok t ∧
        (∀ (k : Nat) (hk : k < s.nodes.length), i = k ∨ i = k - s.nodes.length →
          t.nodes = [s.nodes[k]]) ∧
        (i < -(s.nodes.length : Int) ∨ s.nodes.length ≤ i → t.nodes = [])) ∧
      (∀ a, IsIndex a → ∃ t, followed (":slice(" ++ toString a ++ ")") = .ok t ∧
        t.nodes = stretch a none s.nodes) ∧
      (∀ a b, IsIndex a → IsIndex b →
        ∃ t, followed (":slice(" ++ toString a ++ "," ++ toString b ++ ")") = .ok t ∧
          t.nodes = stretch a (some b) s.nodes) ∧
      (∀ k, IsIndex k → ∃ t u, followed (":slice(0," ++ toString k ++ ")") = .ok t ∧
        followed (":slice(" ++ toString k ++ ")") = .ok u ∧ t.nodes ++ u.nodes = s.nodes) ∧
      followed ":first" = followed ":eq(0)" ∧ followed ":last" = followed ":eq(-1)" := by
  have hplain : Plain css.toList := plain_of_segments hs (by simp [Segment.call?])
  have hb : ¬ Blank css.toList := (segments_eq_ok_iff.mp hs).1
  have hcall : TakesCall css := ⟨hplain, hb, hend⟩
  have hresolve (context : Value) : (resolve lib home (.builtin : Registry β) css context).outcome =
      Value.query lib home (.text css) context := (resolve_plain lib home _ css context hb hplain).2
  simp only [hresolve]
  refine ⟨⟨_, by rw [Value.query, Library.select, hx]; rfl⟩, fun context s hquery => ?_⟩
  refine ⟨fun i hi => ⟨_, hcall.resolve_eq hquery hi, fun k hk h => nodes_atIndex hk h,
      nodes_atIndex_of_outside⟩,
    fun a ha => ⟨_, hcall.resolve_slice hquery ha, nodes_ofList_stretch ..⟩,
    fun a b ha hb => ⟨_, hcall.resolve_slice_until hquery ha hb, nodes_ofList_stretch ..⟩,
    fun k hk => ⟨_, _, hcall.resolve_slice_until hquery (a := 0) (by decide) hk,
      hcall.resolve_slice hquery hk, ?_⟩, ?_, ?_⟩
  · rw [nodes_ofList_stretch, nodes_ofList_stretch, stretch_append_stretch]
  · exact (hcall.resolve_end hquery).1.trans (by
      rw [first_eq_atIndex]
      exact (hcall.resolve_eq hquery (i := 0) (by decide)).symm)
  · exact (hcall.resolve_end hquery).2.trans (by
      rw [last_eq_atIndex]
      exact (hcall.resolve_eq hquery (i := -1) (by decide)).symm)

theorem resolve_indexed_items :
    let css := " li[a=':']"
    let lib : Library := ⟨[⟨.html, [.element "ul" [] [.element "li" [("a", .text ":")] [],
      .element "li" [] [], .element "li" [("a", .text ":")] [],
      .element "li" [("a", .text ":")] []]]⟩]⟩
    let followed (call : String) :=
      (resolve lib 0 (.builtin : Registry Unit) (css ++ call) .none).outcome
    (segments css = .ok [.plain "li[a=':']" 1] ∧ css.toList.getLast? ≠ some '\\' ∧
      (∃ x, Library.selectorOf (Library.anchored css) = .ok x) ∧ IsIndex (-1) ∧ IsIndex (-9)) ∧
    (followed "").map NodeSet.nodes = .ok [⟨0, [0, 0]⟩, ⟨0, [0, 2]⟩, ⟨0, [0, 3]⟩] ∧
    (followed ":eq(-1)").map NodeSet.nodes = .ok [⟨0, [0, 3]⟩] ∧
    (followed ":slice(1,-1)").map NodeSet.nodes = .ok [⟨0, [0, 2]⟩] ∧
    ∃ t u, followed ":slice(0,-9)" = .ok t ∧ followed ":slice(-9)" = .ok u ∧
      t.nodes ++ u.nodes = [⟨0, [0, 0]⟩, ⟨0, [0, 2]⟩, ⟨0, [0, 3]⟩] := by
  intro css lib followed
  have hs : segments css = .ok [.plain "li[a=':']" 1] := by decide +kernel
  have hend : css.toList.getLast? ≠ some '\\' := by decide +kernel
  have hread : (Library.selectorOf (Library.anchored css)).map (fun _ => ()) = .ok () := by
    decide +kernel
  obtain ⟨x, hx, -⟩ := exists_of_map hread
  have hlist : (resolve lib 0 (.builtin : Registry Unit) css .none).outcome.map NodeSet.nodes =
      .ok [⟨0, [0, 0]⟩, ⟨0, [0, 2]⟩, ⟨0, [0, 3]⟩] := by decide +kernel
  obtain ⟨s, hresolve, hnodes⟩ := exists_of_map hlist
  obtain ⟨-, hcalls⟩ := @resolve_indexed Unit lib 0 css _ 1 x hs hend hx
  obtain ⟨heq, -, hslice, hparts, -⟩ := hcalls .none s hresolve
  refine ⟨⟨hs, hend, ⟨x, hx⟩, by decide, by decide⟩, hlist, ?_, ?_, ?_⟩
  · obtain ⟨t, ht, hpick, -⟩ := heq (-1) (by decide)
    have hlast := hpick 2 (by simp [hnodes]) (by simp [hnodes])
    simp only [hnodes] at hlast
    exact (congrArg (Except.map NodeSet.nodes) ht).trans (congrArg Except.ok hlast)
  · obtain ⟨t, ht, hcut⟩ := hslice 1 (-1) (by decide) (by decide)
    rw [hnodes] at hcut
    exact (congrArg (Except.map NodeSet.nodes) ht).trans (congrArg Except.ok hcut)
  · obtain ⟨t, u, ht, hu, happend⟩ := hparts (-9) (by decide)
    exact ⟨t, u, ht, hu, happend.trans hnodes⟩

end Pseudo

end MarkupQuery

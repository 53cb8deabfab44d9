import MarkupQuery.Proofs.Pseudo.Attribution
import MarkupQuery.Proofs.Pseudo.Conservative
import MarkupQuery.Proofs.Selector.Refusal

namespace MarkupQuery

def Fault.OfSelector : Fault → Prop
  | malformed .. => True
  | missingContext _ => True
  | unknownPseudo .. => True
  | _ => False

lemma Fault.OfEvaluation.ofSelector {fault : Fault} (h : fault.OfEvaluation) :
    fault.OfSelector := by
  cases fault <;> first | exact h.elim | trivial

def Css.Judged (css : String) : Prop :=
  ∀ refusal, Css.Selector.ofText css = .error refusal → refusal = .malformed

instance (css : String) : Decidable (Css.Judged css) :=
  match h : Css.Selector.ofText css with
  | .ok _ => .isTrue fun _ hr => nomatch h.symm.trans hr
  | .error refusal => decidable_of_iff (refusal = .malformed)
      ⟨fun he _ hr => Except.error.inj (h.symm.trans hr) ▸ he, fun hj => hj refusal h⟩

def Value.IsContext : Value → Prop
  | none => True
  | node _ => True
  | nodes _ => True
  | set _ => True
  | document _ => True
  | _ => False

namespace Selector

def Argument.cssTexts : Argument → List String
  | number _ => []
  | word s => [s, Library.anchored s]

def Segment.cssTexts : Segment → List String
  | plain text _ => [Library.anchored text]
  | pseudo _ _ call => call.arguments.flatMap Argument.cssTexts

end Selector

namespace Pseudo

open Selector

def Overfull (call : Call) : Prop :=
  ∃ op, builtins.lookup call.name = some op ∧ ¬ op.Takes call.arguments.length

def Indexes (call : Call) : Prop :=
  call.name = "eq" ∧ call.arguments.length ≤ 1 ∨ call.name = "slice" ∧ call.arguments.length ≤ 2

variable {β : Type} {lib : Library} {home : Nat} {selector : String} {context : Value}
  {c d : Context} {x : Segment} {ss before : List Segment} {fault : Fault} {v : Value}
  {css text : String} {position : Nat} {call : Call} {p : Fault → Prop}

lemma faults_selectorOf_of_judged (h : Css.Judged css) :
    FaultsIn Fault.OfSelector (Library.selectorOf css) := by
  rw [Library.selectorOf]
  cases hcss : Css.Selector.ofText css with
  | ok s => exact .ok s
  | error refusal =>
    obtain rfl := h refusal hcss
    exact .error trivial

lemma failsIn_argumentValue {a : Argument} (hp : ∀ i : Int, p (Value.unselectable (toString i)))
    (h : ∀ css ∈ a.cssTexts, FaultsIn p (Library.selectorOf css)) :
    (argumentValue a).FailsIn p := by
  cases a with
  | number n => exact hp n
  | word s =>
    obtain ⟨hplain, hanchored⟩ := List.forall_mem_cons.mp h
    exact ⟨hplain, hanchored _ (List.mem_singleton_self _)⟩

lemma exists_nodeSet (hv : v.IsContext) : ∃ s, v.nodeSet lib home = .ok s := by
  cases v with
  | none | node | nodes | set | document => exact ⟨_, rfl⟩
  | _ => exact hv.elim

lemma Context.exists_nodeSet (hunset : c ≠ .unset) (hc : c.value.IsContext) :
    ∃ s, c.nodeSet lib home = .ok s := by
  cases c with
  | unset => exact absurd rfl hunset
  | given v => exact Pseudo.exists_nodeSet hc
  | reached s => exact ⟨s, rfl⟩

lemma applySegment_faults (hp : ∀ i : Int, p (Value.unselectable (toString i)))
    (hc : c.value.IsContext) (hx : ∀ css ∈ x.cssTexts, FaultsIn p (Library.selectorOf css)) :
    FaultsIn (fun fault => p fault ∨ fault.OfEvaluation ∨ fault = .arity ∧ c ≠ .unset ∧
        ∃ text position call, x = .pseudo text position call ∧ Overfull call)
      (applySegment lib home (.builtin : Registry β) selector c x).outcome := by
  cases x with
  | plain text position =>
    obtain ⟨s, hs⟩ : ∃ s, c.value.nodeSet lib home = .ok s := Pseudo.exists_nodeSet hc
    have hcss : FaultsIn p (Library.selectorOf (Library.anchored text)) :=
      hx _ (List.mem_singleton_self _)
    have hquery : FaultsIn p (Value.query lib home (.text text) c.value) := by
      refine Value.faults_query ?_ ((Library.faults_select hcss _).map _) (hs ▸ .ok s)
      rintro _ ⟨⟩
      exact hcss
    exact hquery.mono fun _ => .inl
  | pseudo text position call =>
    by_cases hunset : c = .unset
    · subst hunset
      exact .error (.inr (.inl trivial))
    obtain ⟨s, hs⟩ : ∃ s, c.nodeSet lib home = .ok s := Context.exists_nodeSet hunset hc
    cases hop : builtins.lookup call.name with
    | none =>
      have hh : (Registry.builtin : Registry β).handler? call.name = none := by
        simp [Registry.handler?, Registry.builtin, hop]
      rw [applySegment_unknown hunset hh]
      exact .error (.inr (.inl trivial))
    | some op =>
      rw [applySegment_builtin selector hs hop]
      -- With too many arguments the fault is that of the call, else it is one of its CSS.
      by_cases htakes : op.Takes call.arguments.length
      · have hcall : FaultsIn p (applyBuiltin lib op s (argumentValues call.arguments)) :=
          faults_applyBuiltin (fun a ha => failsIn_argumentValue hp fun css hcss =>
            hx css (List.mem_flatMap.mpr ⟨a, ha, hcss⟩)) fun h => absurd htakes h
        exact hcall.mono fun _ => .inl
      · rw [applyBuiltin_of_not_takes htakes]
        exact .error (.inr (.inr ⟨rfl, hunset, text, position, call, rfl, op, hop, htakes⟩))

lemma applySegment_overfull (hunset : c ≠ .unset) (hc : c.value.IsContext) (h : Overfull call) :
    (applySegment lib home (.builtin : Registry β) selector c
      (.pseudo text position call)).outcome = .error .arity := by
  obtain ⟨s, hs⟩ : ∃ s, c.nodeSet lib home = .ok s := Context.exists_nodeSet hunset hc
  obtain ⟨op, hop, htakes⟩ := h
  rw [applySegment_builtin selector hs hop, applyBuiltin_of_not_takes htakes]

lemma applySegment_indexes (hunset : c ≠ .unset) (hc : c.value.IsContext) (h : Indexes call) :
    ∃ t, (applySegment lib home (.builtin : Registry β) selector c
      (.pseudo text position call)).outcome = .ok t := by
  obtain ⟨s, hs⟩ : ∃ s, c.nodeSet lib home = .ok s := Context.exists_nodeSet hunset hc
  obtain ⟨name, arguments⟩ := call
  apply FaultsIn.exists_ok
  rcases h with ⟨rfl, hlen⟩ | ⟨rfl, hlen⟩
  · rw [applySegment_builtin selector hs rfl]
    rcases arguments with _ | ⟨a, _ | ⟨b, as⟩⟩
    · change FaultsIn _ (s.eq lib (.int 0))
      exact NodeSet.faults_eq trivial
    · have hgiven : argumentValue a ≠ .none := by cases a <;> nofun
      change FaultsIn _ (applyBuiltin lib .eq s [argumentValue a])
      rw [applyBuiltin_eq_of_given hgiven]
      exact NodeSet.faults_eq (isArgument_argumentValue a)
    · simp at hlen
  · rw [applySegment_builtin selector hs rfl]
    rcases arguments with _ | ⟨a, _ | ⟨b, _ | ⟨e, as⟩⟩⟩
    · exact NodeSet.faults_slice trivial trivial
    · exact NodeSet.faults_slice (isArgument_argumentValue a) trivial
    · exact NodeSet.faults_slice (isArgument_argumentValue a) (isArgument_argumentValue b)
    · simp at hlen

lemma isContext_of_evaluate (hcontext : context.IsContext)
    (h : (evaluate lib home (.builtin : Registry β) selector (.ofValue context) before).outcome =
      .ok d) : d.value.IsContext := by
  rcases evaluate_reached h with ⟨-, rfl⟩ | ⟨s, rfl⟩
  · rwa [Context.value_ofValue]
  · trivial

lemma faults_segments (selector : String) :
    FaultsIn (fun fault => fault.OfSelector ∨ fault = .digitLimit) (segments selector) := by
  rw [segments]
  cases segmentsOf selector.toList with
  | ok ss => exact .ok ss
  | error stop =>
    cases stop with
    | malformed => exact .error (.inl trivial)
    | digitLimit => exact .error (.inr rfl)

def MeetsOverfull (β : Type) (lib : Library) (home : Nat) (selector : String) (context : Value) :
    Prop :=
  ∃ before text position call after d,
    segments selector = .ok (before ++ .pseudo text position call :: after) ∧
    (evaluate lib home (.builtin : Registry β) selector (.ofValue context) before).outcome =
      .ok d ∧ d ≠ .unset ∧ Overfull call

lemma resolve_of_meetsOverfull (hcontext : context.IsContext)
    (h : MeetsOverfull β lib home selector context) :
    (resolve lib home (.builtin : Registry β) selector context).outcome = .error .arity := by
  obtain ⟨before, text, position, call, after, d, hs, hd, hunset, hcall⟩ := h
  have hd' := isContext_of_evaluate hcontext hd
  rw [resolve_eq_error_iff hs]
  exact evaluate_append_error hd (applySegment_overfull hunset hd' hcall)

lemma exists_of_resolve_fault (hp : ∀ i : Int, p (Value.unselectable (toString i)))
    (hcontext : context.IsContext)
    (hcss : ∀ ss, segments selector = .ok ss → ∀ x ∈ ss, ∀ css ∈ x.cssTexts,
      FaultsIn p (Library.selectorOf css))
    (h : (resolve lib home (.builtin : Registry β) selector context).outcome = .error fault) :
    segments selector = .error fault ∨ p fault ∨ fault.OfEvaluation ∨
      fault = .arity ∧ MeetsOverfull β lib home selector context := by
  cases hs : segments selector with
  | error fault' =>
    obtain rfl := Except.error.inj ((resolve_of_segments_error hs).symm.trans h)
    exact .inl rfl
  | ok ss =>
    rw [resolve_eq_error_iff hs] at h
    obtain ⟨before, x, after, d, rfl, hd, hx, -⟩ :=
      exists_observations_of_error lib home (.builtin : Registry β) selector h
    have hd' := isContext_of_evaluate hcontext hd
    have hfault := applySegment_faults hp hd' (hcss _ hs x (by simp)) fault hx
    refine .inr (hfault.imp_right (Or.imp_right ?_))
    rintro ⟨rfl, hunset, text, position, call, rfl, hcall⟩
    exact ⟨rfl, before, text, position, call, after, d, hs, hd, hunset, hcall⟩

lemma exists_of_resolve_judged (hcontext : context.IsContext)
    (hcss : ∀ ss, segments selector = .ok ss → ∀ x ∈ ss, ∀ css ∈ x.cssTexts, Css.Judged css)
    (h : (resolve lib home (.builtin : Registry β) selector context).outcome = .error fault) :
    fault.OfSelector ∨ fault = .digitLimit ∧ HasLongNumber selector ∨
      fault = .arity ∧ MeetsOverfull β lib home selector context := by
  have hfaults := exists_of_resolve_fault (p := Fault.OfSelector) (fun _ => trivial) hcontext
    (fun ss hs x hx css hm => faults_selectorOf_of_judged (hcss ss hs x hx css hm)) h
  rcases hfaults with hs | hfault | hfault | hfault
  · rcases faults_segments selector fault hs with hfault | rfl
    · exact .inl hfault
    · exact .inr (.inl ⟨rfl, hasLongNumber_of_segments hs⟩)
  · exact .inl hfault
  · exact .inl hfault.ofSelector
  · exact .inr (.inr hfault)

structure Surface (β : Type) (lib : Library) (home : Nat) (selector : String) (context : Value) :
    Prop where
  kinds : ∀ fault, (resolve lib home (.builtin : Registry β) selector context).outcome =
    .error fault → fault.OfSelector ∨ fault = .digitLimit ∨ fault = .arity
  digits : (resolve lib home (.builtin : Registry β) selector context).outcome =
    .error .digitLimit → HasLongNumber selector
  arguments : (resolve lib home (.builtin : Registry β) selector context).outcome =
    .error .arity ↔ MeetsOverfull β lib home selector context
  indexes : ∀ c : Context, c ≠ .unset → c.value.IsContext → ∀ text position call, Indexes call →
    ∃ s, (applySegment lib home (.builtin : Registry β) selector c
      (.pseudo text position call)).outcome = .ok s

/-- From no context or one of nodes, and where CSS is refused as malformed only, a selector leads
to nodes or goes wrong by its own making: apart from that, a number may be too long or a call may
have too many arguments. -/
theorem resolve_surface (β : Type) (lib : Library) (home : Nat) (selector : String)
    (context : Value) (hcontext : context.IsContext)
    (hcss : ∀ ss, segments selector = .ok ss → ∀ x ∈ ss, ∀ css ∈ x.cssTexts, Css.Judged css) :
    Surface β lib home selector context where
  kinds fault h := by
    rcases exists_of_resolve_judged hcontext hcss h with hfault | ⟨hfault, -⟩ | ⟨hfault, -⟩
    · exact .inl hfault
    · exact .inr (.inl hfault)
    · exact .inr (.inr hfault)
  digits h := by
    rcases exists_of_resolve_judged hcontext hcss h with hfault | ⟨-, hlong⟩ | ⟨hfault, -⟩
    · exact hfault.elim
    · exact hlong
    · cases hfault
  arguments := by
    refine ⟨fun h => ?_, resolve_of_meetsOverfull hcontext⟩
    rcases exists_of_resolve_judged hcontext hcss h with hfault | ⟨hfault, -⟩ | ⟨-, hmeets⟩
    · exact hfault.elim
    · cases hfault
    · exact hmeets
  indexes _ hunset hc _ _ _ hcall := applySegment_indexes hunset hc hcall

theorem resolve_surface_two_arguments :
    let lib : Library := ⟨[⟨.html, [.element "p" [] []]⟩]⟩
    let s := "p:eq(-7x):has(a,b)"
    Value.none.IsContext ∧
    (∀ ss, segments s = .ok ss → ∀ x ∈ ss, ∀ css ∈ x.cssTexts, Css.Judged css) ∧
    (resolve lib 0 (.builtin : Registry Unit) s .none).outcome.map NodeSet.nodes =
      .error .arity ∧
    Surface Unit lib 0 s .none := by
  intro lib s
  have hs : segments s = .ok [.plain "p" 0, .pseudo ":eq(-7x)" 1 ⟨"eq", [.word "-7x"]⟩,
      .pseudo ":has(a,b)" 9 ⟨"has", [.word "a", .word "b"]⟩] := by decide +kernel
  have hcss : ∀ ss, segments s = .ok ss → ∀ x ∈ ss, ∀ css ∈ x.cssTexts, Css.Judged css := by
    intro ss h
    obtain rfl := Except.ok.inj (hs.symm.trans h)
    decide +kernel
  refine ⟨trivial, hcss, ?_, resolve_surface Unit lib 0 s .none trivial hcss⟩
  rw [resolve_outcome lib 0 .builtin s hs]
  decide +kernel

end Pseudo

end MarkupQuery

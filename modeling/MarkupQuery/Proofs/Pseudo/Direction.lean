import MarkupQuery.Proofs.Nodes.Direction
import MarkupQuery.Proofs.Pseudo.Composition

namespace MarkupQuery.Pseudo

open Selector

def turns : List (String × Direction) :=
  [("parent", .forward), ("parents", .backward), ("closest", .forward), ("next", .forward),
    ("nextAll", .forward), ("prev", .forward), ("prevAll", .backward), ("siblings", .forward),
    ("children", .forward), ("contents", .forward)]

def turn? : Segment → Option Direction
  | .plain .. => some .forward
  | .pseudo _ _ call =>
    if call.name = "add" then if call.arguments.isEmpty then none else some .forward
    else turns.lookup call.name

def directionOf (ss : List Segment) : Direction := (ss.filterMap turn?).getLast?.getD .forward

def HasContents (ss : List Segment) : Prop :=
  ∃ segment ∈ ss, ∃ call ∈ segment.call?, call.name = "contents"

variable {β : Type} {lib : Library} {home : Nat} {s t : NodeSet} {d : Direction}
  (selector : String)

def Operation.turn? (arguments : List Argument) : Operation → Option Direction
  | .parents | .prevAll => some .backward
  | .filter | .exclude | .has | .first | .last | .eq | .slice | .find => none
  | .add => if arguments.isEmpty then none else some .forward
  | _ => some .forward

lemma turn?_builtin {text : String} {position : Nat} {call : Call} {op : Operation}
    (hop : builtins.lookup call.name = some op) :
    turn? (.pseudo text position call) = op.turn? call.arguments := by
  -- The table of built-in names and the table of turns agree, name by name.
  have hnames : ∀ b ∈ builtins, if b.1 = "add" then b.2 = .add
      else b.2 ≠ .add ∧ turns.lookup b.1 = b.2.turn? [] := by decide
  obtain ⟨name, arguments⟩ := call
  have h := hnames (name, op) (mem_builtins hop)
  rw [turn?]
  split at h
  · next ha =>
    obtain rfl : op = .add := h
    rw [if_pos ha]
    rfl
  · next ha =>
    rw [if_neg ha, h.2]
    cases op <;> first | rfl | exact absurd rfl h.1

lemma turned_of_sublist {o : Option Direction} (ho : o = none)
    (hs : s.nodes.Sublist (lib.listing home d)) (ht : t.nodes.Sublist s.nodes) :
    t.nodes.Sublist (lib.listing home (o.getD d)) ∧
      ((∀ n ∈ s.nodes, lib.isElement n) → ∀ m ∈ t.nodes, lib.isElement m) := by
  subst ho
  exact ⟨ht.trans hs, fun he m hm => he m (ht.subset hm)⟩

lemma add_directed {arguments : List Argument} (hhome : s.home = home)
    (hs : s.nodes.Sublist (lib.listing home d))
    (h : applyBuiltin lib .add s (argumentValues arguments) = .ok t) :
    t.nodes.Sublist (lib.listing home ((Operation.add.turn? arguments).getD d)) ∧
      ((∀ n ∈ s.nodes, lib.isElement n) → ∀ m ∈ t.nodes, lib.isElement m) := by
  subst hhome
  match arguments with
  | [] =>
    obtain rfl : NodeSet.ofList s.home s.nodes = t := Except.ok.inj h
    rw [NodeSet.ofList_nodes]
    exact turned_of_sublist rfl hs (List.Sublist.refl _)
  | [.number n] => cases h
  | [.word w] =>
    have h : s.add lib (.text w) .none = .ok t := h
    obtain ⟨found, hfound, rfl⟩ := exists_of_map h
    obtain ⟨hpre, he⟩ := Value.query_document hfound
    have hall : s.nodes ++ found.nodes ⊆ lib.preorder s.home := by
      intro n hn
      rcases List.mem_append.mp hn with hn | hn
      · exact Library.mem_listing.mp (hs.subset hn)
      · exact hpre.subset hn
    refine ⟨?_, fun hes m hm => ?_⟩
    · rw [NodeSet.ofList_sorted_nodes hall]
      exact NodeSet.sorted_sublist_preorder hall
    · rcases List.mem_append.mp (NodeSet.mem_ofList_sorted.mp hm) with hm | hm
      · exact hes m hm
      · exact he m hm
  | _ :: _ :: _ => cases h

lemma exists_of_applyBuiltin {op : Operation} {values : List Value}
    (h : applyBuiltin lib op s values = .ok t) : ∃ values', op.apply lib s values' = .ok t := by
  unfold applyBuiltin at h
  split at h
  case h_7 => cases h
  all_goals exact ⟨_, h⟩

lemma Operation.apply_sublist {op : Operation} {values : List Value}
    (hop : op ∈ [filter, exclude, has, first, last, eq, slice])
    (h : op.apply lib s values = .ok t) : t.nodes.Sublist s.nodes := by
  cases op <;> simp only [List.mem_cons, reduceCtorEq, List.not_mem_nil, or_self] at hop
  case filter =>
    obtain ⟨v, hv⟩ := exists_of_apply_select rfl h
    exact NodeSet.filter_sublist hv
  case exclude =>
    obtain ⟨v, hv⟩ := exists_of_apply_select rfl h
    exact NodeSet.exclude_sublist hv
  case has =>
    obtain ⟨v, hv⟩ := exists_of_apply_select rfl h
    exact NodeSet.has_sublist hv
  all_goals rcases values with _ | ⟨a, _ | ⟨b, _ | ⟨c, values⟩⟩⟩
  case first.nil =>
    obtain rfl := Except.ok.inj h
    exact NodeSet.first_sublist
  case last.nil =>
    obtain rfl := Except.ok.inj h
    exact NodeSet.last_sublist
  case eq.cons.nil => exact NodeSet.eq_sublist h
  case slice.nil | slice.cons.nil | slice.cons.cons.nil => exact NodeSet.slice_sublist h
  all_goals cases h

lemma Operation.apply_directed {op : Operation} {values : List Value} {d : Direction}
    (hhome : s.home = home) (hs : ∀ n ∈ s.nodes, n.document = home)
    (hop : op ∉ [find, contents, add]) (hturn : op.turn? [] = some d)
    (h : op.apply lib s values = .ok t) :
    t.nodes.Sublist (lib.listing home d) ∧ ∀ m ∈ t.nodes, lib.isElement m := by
  cases op <;> cases hturn
  case contents.refl => simp at hop
  all_goals obtain ⟨v, hv⟩ := exists_of_apply_select rfl h
  case parent.refl => exact NodeSet.derive_directed Library.finds_parentElement hhome hs hv
  case parents.refl =>
    exact NodeSet.deriveReversed_directed Library.finds_ancestorElements hhome hs hv
  case closest.refl => exact NodeSet.closest_directed hhome hs hv
  case next.refl =>
    exact NodeSet.derive_directed (Library.finds_followingElements.take 1) hhome hs hv
  case nextAll.refl => exact NodeSet.derive_directed Library.finds_followingElements hhome hs hv
  case prev.refl =>
    exact NodeSet.derive_directed (Library.finds_precedingElements.take 1) hhome hs hv
  case prevAll.refl =>
    exact NodeSet.deriveReversed_directed Library.finds_precedingElements hhome hs hv
  case siblings.refl => exact NodeSet.derive_directed Library.finds_siblingElements hhome hs hv
  case children.refl => exact NodeSet.derive_directed Library.finds_childElements hhome hs hv

lemma applyBuiltin_directed {op : Operation} {arguments : List Argument} (hop : op ≠ .find)
    (hhome : s.home = home) (hs : s.nodes.Sublist (lib.listing home d))
    (h : applyBuiltin lib op s (argumentValues arguments) = .ok t) :
    t.nodes.Sublist (lib.listing home ((op.turn? arguments).getD d)) ∧
      (op ≠ .contents → (∀ n ∈ s.nodes, lib.isElement n) → ∀ m ∈ t.nodes, lib.isElement m) := by
  have hdoc := Library.document_of_sublist_listing hs
  obtain ⟨values, hvalues⟩ := exists_of_applyBuiltin h
  by_cases hcontents : op = .contents
  · subst hcontents
    obtain rfl := Except.ok.inj h
    exact ⟨NodeSet.contents_directed hhome hdoc, fun hne => absurd rfl hne⟩
  by_cases hadd : op = .add
  · subst hadd
    obtain ⟨hdirected, he⟩ := add_directed hhome hs h
    exact ⟨hdirected, fun _ => he⟩
  have hturn : op.turn? arguments = op.turn? [] := by
    cases op <;> first | rfl | exact absurd rfl hadd
  rw [hturn]
  cases ho : op.turn? [] with
  | none =>
    have hnarrow : op ∈ [.filter, .exclude, .has, .first, .last, .eq, .slice] := by
      cases op <;> simp_all [Operation.turn?]
    obtain ⟨hdirected, he⟩ := turned_of_sublist rfl hs (Operation.apply_sublist hnarrow hvalues)
    exact ⟨hdirected, fun _ => he⟩
  | some d =>
    have hfinds : op ∉ [.find, .contents, .add] := by simp [hop, hcontents, hadd]
    obtain ⟨hdirected, he⟩ := Operation.apply_directed hhome hdoc hfinds ho hvalues
    exact ⟨hdirected, fun _ _ => he⟩

lemma contents_builtin {name : String} (hop : builtins.lookup name = some .contents) :
    name = "contents" := by
  have hnames : ∀ b ∈ builtins, b.2 = .contents → b.1 = "contents" := by decide
  exact hnames (name, .contents) (mem_builtins hop) rfl

lemma not_find_builtin {name : String} {op : Operation} (hop : builtins.lookup name = some op) :
    op ≠ .find := by
  have hnames : ∀ b ∈ builtins, b.2 ≠ .find := by decide
  exact hnames (name, op) (mem_builtins hop)

lemma applySegment_directed {segment : Segment} (hhome : s.home = home)
    (hs : s.nodes.Sublist (lib.listing home d))
    (h : (applySegment lib home (.builtin : Registry β) selector (.reached s) segment).outcome =
      .ok t) :
    t.nodes.Sublist (lib.listing home ((turn? segment).getD d)) ∧
      ((∀ call ∈ segment.call?, call.name ≠ "contents") → (∀ n ∈ s.nodes, lib.isElement n) →
        ∀ m ∈ t.nodes, lib.isElement m) := by
  cases segment with
  | plain text position =>
    obtain ⟨hpre, he⟩ := Value.query_set hhome (Library.document_of_sublist_listing hs) h
    exact ⟨hpre, fun _ _ => he⟩
  | pseudo text position call =>
    obtain ⟨op, r, hop, hr, ht⟩ := exists_of_applySegment_builtin selector h
    obtain rfl : s = r := Except.ok.inj hr
    obtain ⟨hdirected, he⟩ := applyBuiltin_directed (not_find_builtin hop) hhome hs ht
    refine ⟨(turn?_builtin hop).symm ▸ hdirected, fun hcall => he fun hcontents => ?_⟩
    subst hcontents
    exact hcall call rfl (contents_builtin hop)

lemma directionOf_cons (segment : Segment) (ss : List Segment) :
    ((segment :: ss).filterMap turn?).getLast?.getD d =
      (ss.filterMap turn?).getLast?.getD ((turn? segment).getD d) := by
  cases h : turn? segment with
  | none => simp [h]
  | some d' =>
    rw [List.filterMap_cons_some h, List.getLast?_cons]
    rfl

lemma reach_directed {ss : List Segment} (hhome : s.home = home)
    (hs : s.nodes.Sublist (lib.listing home d))
    (h : reach lib home (.builtin : Registry β) selector (.reached s) ss = .ok t) :
    t.nodes.Sublist (lib.listing home ((ss.filterMap turn?).getLast?.getD d)) ∧
      (¬ HasContents ss → (∀ n ∈ s.nodes, lib.isElement n) → ∀ m ∈ t.nodes, lib.isElement m) := by
  induction ss generalizing s d with
  | nil =>
    obtain rfl : s = t := Except.ok.inj h
    exact ⟨hs, fun _ he => he⟩
  | cons segment ss ih =>
    rw [reach_cons] at h
    obtain ⟨r, hr, h⟩ := exists_of_bind h
    have hrhome : r.home = home := applySegment_home selector (Context.atHome_reached hhome) hr
    obtain ⟨hstep, hestep⟩ := applySegment_directed selector hhome hs hr
    obtain ⟨hrun, herun⟩ := ih hrhome hstep h
    refine ⟨by rwa [directionOf_cons], fun hnot he => herun (fun hc => hnot ?_) (hestep ?_ he)⟩
    · obtain ⟨x, hx, hcall⟩ := hc
      exact ⟨x, List.mem_cons_of_mem segment hx, hcall⟩
    · exact fun call hcall hname => hnot ⟨segment, List.mem_cons_self, call, hcall, hname⟩

/-- Without a context, a selector leads to nodes below the root, once each and in the direction
that its last turn sets; to elements only, unless it asks for all children. -/
theorem resolve_directed (lib : Library) (home : Nat) (selector : String) (ss : List Segment)
    (hs : segments selector = .ok ss) (t : NodeSet)
    (h : (resolve lib home (.builtin : Registry β) selector .none).outcome = .ok t) :
    t.nodes.Nodup ∧ t.nodes.Pairwise (directionOf ss).Before ∧
      t.nodes ⊆ lib.preorder home ∧ Node.root home ∉ t.nodes ∧
      (¬ HasContents ss → ∀ n ∈ t.nodes, lib.isElement n) := by
  obtain ⟨hlisting, he⟩ : t.nodes.Sublist (lib.listing home (directionOf ss)) ∧
      (¬ HasContents ss → ∀ n ∈ t.nodes, lib.isElement n) := by
    rw [resolve_outcome lib home _ _ hs] at h
    cases ss with
    | nil => cases h
    | cons segment ss =>
      rw [reach_cons] at h
      obtain ⟨s, hsegment, hrest⟩ := exists_of_bind h
      cases segment with
      | pseudo => cases hsegment
      | plain text position =>
        obtain ⟨hpre, hes⟩ := Value.query_document hsegment
        have hquery : Value.query lib home (.text text) .none = .ok s := hsegment
        have hhome : s.home = home := Value.query_home hquery
        obtain ⟨hrun, herun⟩ := reach_directed (d := .forward) selector hhome hpre hrest
        refine ⟨by rwa [directionOf, directionOf_cons], fun hnot => herun (fun hc => hnot ?_) hes⟩
        obtain ⟨x, hx, hcall⟩ := hc
        exact ⟨x, List.mem_cons_of_mem _ hx, hcall⟩
  have hpre : t.nodes ⊆ lib.preorder home := fun n hn =>
    Library.mem_listing.mp (hlisting.subset hn)
  refine ⟨t.nodup, Library.pairwise_listing.sublist hlisting, hpre, fun hroot => ?_, he⟩
  exact (Library.mem_preorder.mp (hpre hroot)).2.1 rfl

theorem resolve_directed_not :
    let lib : Library := ⟨[⟨.html, [.element "p" [] [.element "b" [] [], .element "i" [] [],
      .element "b" [] []]]⟩]⟩
    let registry : Registry Unit := .builtin
    let ss : List Segment := [.plain "p *" 0, .pseudo ":not(i)" 3 ⟨"not", [.word "i"]⟩]
    segments "p *:not(i)" = .ok ss ∧ directionOf ss = .forward ∧ ¬ HasContents ss ∧
    ∃ t, (resolve lib 0 registry "p *:not(i)" .none).outcome = .ok t ∧
      t.nodes = [⟨0, [0, 0]⟩, ⟨0, [0, 2]⟩] ∧ t.nodes.Pairwise (directionOf ss).Before ∧
      ∀ n ∈ t.nodes, lib.isElement n := by
  intro lib registry ss
  have hs : segments "p *:not(i)" = .ok ss := by decide +kernel
  have hcontents : ¬ HasContents ss := by simp [HasContents, ss, Segment.call?]
  have hnodes : (resolve lib 0 registry "p *:not(i)" .none).outcome.map NodeSet.nodes =
      .ok [⟨0, [0, 0]⟩, ⟨0, [0, 2]⟩] := by decide +kernel
  obtain ⟨t, ht, hreached⟩ := exists_of_map hnodes
  obtain ⟨-, horder, -, -, he⟩ := resolve_directed lib 0 "p *:not(i)" ss hs t ht
  exact ⟨hs, by decide, hcontents, t, ht, hreached, horder, he hcontents⟩

end MarkupQuery.Pseudo

import MarkupQuery.Proofs.Nodes.Home
import MarkupQuery.Proofs.Selector.Parts
import MarkupQuery.Proofs.Trace
import MarkupQuery.Pseudo.Evaluation

/-! Evaluation of a selector written after another is evaluation from what the other leads to. -/

namespace MarkupQuery

def Fault.unplaced : Fault → Fault
  | malformed cause _ _ => malformed cause none none
  | missingContext _ => missingContext none
  | unknownPseudo name _ _ => unknownPseudo name ⟨"", 0⟩ ""
  | fault => fault

namespace Pseudo

open Selector

variable {β : Type} (lib : Library) (home : Nat) (registry : Registry β) (selector : String)
variable {context : Context}

def reach (context : Context) (ss : List Segment) : Except Fault NodeSet :=
  (evaluate lib home registry selector context ss).outcome.bind fun c => c.nodeSet lib home

lemma announce_outcome : (registry.announce : Traced β Unit).outcome = .ok () := by
  unfold Registry.announce
  split <;> rfl

lemma evaluate_cons (segment : Segment) (ss : List Segment) :
    (evaluate lib home registry selector context (segment :: ss)).outcome =
      (applySegment lib home registry selector context segment).outcome.bind fun s =>
        (evaluate lib home registry selector (.reached s) ss).outcome := by
  rw [evaluate, Traced.outcome_bind]
  rfl

lemma evaluate_append (ss ts : List Segment) :
    (evaluate lib home registry selector context (ss ++ ts)).outcome =
      (evaluate lib home registry selector context ss).outcome.bind fun c =>
        (evaluate lib home registry selector c ts).outcome := by
  induction ss generalizing context with
  | nil => rfl
  | cons segment ss ih =>
    rw [List.cons_append, evaluate_cons, evaluate_cons]
    cases (applySegment lib home registry selector context segment).outcome with
    | error fault => rfl
    | ok s => exact ih

lemma evaluate_keeps {P : NodeSet → Prop} {s : NodeSet} {ss : List Segment} {c : Context}
    (hstep : ∀ x ∈ ss, ∀ s t, P s →
      (applySegment lib home registry selector (.reached s) x).outcome = .ok t → P t)
    (hs : P s) (h : (evaluate lib home registry selector (.reached s) ss).outcome = .ok c) :
    ∃ t, c = .reached t ∧ P t := by
  induction ss generalizing s with
  | nil => exact ⟨s, (Except.ok.inj h).symm, hs⟩
  | cons segment ss ih =>
    obtain ⟨hsegment, hrest⟩ := List.forall_mem_cons.mp hstep
    rw [evaluate_cons] at h
    obtain ⟨r, hr, h⟩ := exists_of_bind h
    exact ih hrest (hsegment s r hs hr) h

lemma reach_append (ss ts : List Segment) :
    reach lib home registry selector context (ss ++ ts) =
      (evaluate lib home registry selector context ss).outcome.bind fun c =>
        reach lib home registry selector c ts := by
  rw [reach, evaluate_append]
  cases (evaluate lib home registry selector context ss).outcome <;> rfl

lemma reach_cons (segment : Segment) (ss : List Segment) :
    reach lib home registry selector context (segment :: ss) =
      (applySegment lib home registry selector context segment).outcome.bind fun s =>
        reach lib home registry selector (.reached s) ss := by
  rw [reach, evaluate_cons]
  cases (applySegment lib home registry selector context segment).outcome <;> rfl

lemma resolve_outcome {ss : List Segment} (h : segments selector = .ok ss) (v : Value) :
    (resolve lib home registry selector v).outcome =
      reach lib home registry selector (.ofValue v) ss := by
  rw [resolve, Traced.outcome_bind, announce_outcome, Except.bind, Traced.outcome_bind,
    Traced.ofExcept, h, Except.bind, Traced.outcome_bind]
  rfl

lemma applySegment_congr (selector' : String) {segment segment' : Segment}
    (h : segment.part = segment'.part) :
    (applySegment lib home registry selector context segment).outcome.mapError Fault.unplaced =
      (applySegment lib home registry selector' context segment').outcome.mapError
        Fault.unplaced := by
  cases segment with
  | plain text position =>
    cases segment' with
    | plain text' position' =>
      obtain rfl := Part.css.inj h
      rfl
    | pseudo => cases h
  | pseudo text position call =>
    cases segment' with
    | plain => cases h
    | pseudo text' position' call' =>
      obtain rfl := Part.call.inj h
      simp only [applySegment, applyCall]
      split
      · rfl
      split
      · rfl
      · rfl

lemma evaluate_congr (selector' : String) {ss ts : List Segment}
    (h : ss.map Segment.part = ts.map Segment.part) :
    (evaluate lib home registry selector context ss).outcome.mapError Fault.unplaced =
      (evaluate lib home registry selector' context ts).outcome.mapError Fault.unplaced := by
  induction ss generalizing context ts with
  | nil =>
    obtain rfl := List.map_eq_nil_iff.mp h.symm
    rfl
  | cons segment ss ih =>
    cases ts with
    | nil => cases h
    | cons segment' ts =>
      obtain ⟨hp, hps⟩ := List.cons.inj h
      rw [evaluate_cons, evaluate_cons]
      exact mapError_bind_congr (applySegment_congr lib home registry selector selector' hp)
        fun s _ => ih hps

lemma reach_congr (selector' : String) {ss ts : List Segment}
    (h : ss.map Segment.part = ts.map Segment.part) :
    (reach lib home registry selector context ss).mapError Fault.unplaced =
      (reach lib home registry selector' context ts).mapError Fault.unplaced :=
  mapError_bind_congr (evaluate_congr lib home registry selector selector' h) fun _ _ => rfl

variable {lib home}

def Context.AtHome (home : Nat) (context : Context) : Prop :=
  ∀ s, context = .reached s → s.home = home

lemma Context.atHome_reached {s : NodeSet} (h : s.home = home) :
    (Context.reached s).AtHome home := by
  intro r hr
  cases hr
  exact h

lemma Context.nodeSet_home {s : NodeSet} (hc : context.AtHome home)
    (h : context.nodeSet lib home = .ok s) : s.home = home := by
  cases context with
  | unset => cases h
  | given v => exact Value.nodeSet_home h
  | reached r =>
    obtain rfl := Except.ok.inj h
    exact hc r rfl

lemma mem_builtins {name : String} {op : Operation} (hop : builtins.lookup name = some op) :
    (name, op) ∈ builtins := by
  obtain ⟨before, after, hmem, -⟩ := List.lookup_eq_some_iff.mp hop
  rw [hmem]
  simp

lemma exists_of_builtin_handler {name : String} {handler : Handler β}
    (h : (Registry.builtin : Registry β).handler? name = some handler) :
    ∃ op, builtins.lookup name = some op ∧ handler = Handler.builtin op := by
  obtain ⟨op, hop, rfl⟩ := Option.map_eq_some_iff.mp h
  exact ⟨op, hop, rfl⟩

lemma builtin_handler {name : String} {op : Operation} (hop : builtins.lookup name = some op) :
    (Registry.builtin : Registry β).handler? name = some (Handler.builtin op) := by
  simp [Registry.handler?, Registry.builtin, hop]

lemma applySegment_builtin {text : String} {position : Nat} {call : Call} {op : Operation}
    {s : NodeSet} (hs : context.nodeSet lib home = .ok s)
    (hop : builtins.lookup call.name = some op) :
    (applySegment lib home (.builtin : Registry β) selector context
      (.pseudo text position call)).outcome =
        applyBuiltin lib op s (argumentValues call.arguments) := by
  have hset : context.isUnset = false := by
    cases context with
    | unset => cases hs
    | given | reached => rfl
  simp only [applySegment, applyCall, builtin_handler hop, hset, hs]
  refine (Traced.outcome_bind _ _).trans ((Traced.outcome_bind _ _).trans ?_)
  simp only [Handler.builtin, Traced.ofExcept]
  cases applyBuiltin lib op s (argumentValues call.arguments) <;> rfl

lemma exists_of_applySegment_builtin {text : String} {position : Nat} {call : Call} {t : NodeSet}
    (h : (applySegment lib home (.builtin : Registry β) selector context
      (.pseudo text position call)).outcome = .ok t) :
    ∃ op s, builtins.lookup call.name = some op ∧ context.nodeSet lib home = .ok s ∧
      applyBuiltin lib op s (argumentValues call.arguments) = .ok t := by
  simp only [applySegment, applyCall] at h
  split at h
  · cases h
  split at h
  · cases h
  · next handler hh =>
    obtain ⟨op, hop, rfl⟩ := exists_of_builtin_handler hh
    rw [Traced.outcome_bind] at h
    obtain ⟨s, hs, h⟩ := exists_of_bind h
    rw [Traced.outcome_bind] at h
    obtain ⟨v, hv, h⟩ := exists_of_bind h
    obtain ⟨u, hu, rfl⟩ := exists_of_map hv
    obtain rfl := Except.ok.inj h
    exact ⟨op, s, hop, hs, hu⟩

lemma applySegment_home {segment : Segment} {s : NodeSet}
    (hc : context.AtHome home)
    (h : (applySegment lib home (.builtin : Registry β) selector context segment).outcome = .ok s) :
    s.home = home := by
  cases segment with
  | plain text position =>
    have hq : Value.query lib home (.text text) context.value = .ok s := h
    exact Value.query_home hq
  | pseudo text position call =>
    obtain ⟨op, r, -, hr, hs⟩ := exists_of_applySegment_builtin selector h
    rw [applyBuiltin_home hs]
    exact context.nodeSet_home hc hr

lemma evaluate_home {ss : List Segment} {c : Context} (hc : context.AtHome home)
    (h : (evaluate lib home (.builtin : Registry β) selector context ss).outcome = .ok c) :
    (ss = [] ∧ c = context) ∨ ∃ r, c = .reached r ∧ r.home = home := by
  cases ss with
  | nil => exact .inl ⟨rfl, (Except.ok.inj h).symm⟩
  | cons segment ss =>
    rw [evaluate_cons] at h
    obtain ⟨s, hs, h⟩ := exists_of_bind h
    refine .inr (evaluate_keeps lib home _ selector (fun x _ s t hhome hx => ?_)
      (applySegment_home selector hc hs) h)
    exact applySegment_home selector (Context.atHome_reached hhome) hx

variable (lib)

lemma applySegment_given {v : Value} {r : NodeSet} (hv : v ≠ .none)
    (h : v.nodeSet lib home = .ok r) (segment : Segment) :
    applySegment lib home registry selector (.given v) segment =
      applySegment lib home registry selector (.reached r) segment := by
  have hset : (Value.set r).nodeSet lib home = .ok r := Value.nodeSet_set (Value.nodeSet_home h)
  cases segment with
  | plain text position =>
    have hscope := Value.scope_of_nodeSet h
    have hscope' := Value.scope_of_nodeSet hset
    cases v <;> simp_all [applySegment, Value.query, Context.value]
  | pseudo text position call =>
    simp only [applySegment, applyCall, Context.nodeSet, h]
    rfl

lemma reach_given {v : Value} {r : NodeSet} (hv : v ≠ .none) (h : v.nodeSet lib home = .ok r)
    (ss : List Segment) :
    reach lib home registry selector (.given v) ss =
      reach lib home registry selector (.reached r) ss := by
  cases ss with
  | nil => exact h
  | cons segment ss =>
    rw [reach_cons, reach_cons, applySegment_given lib registry selector hv h]

lemma reach_given_set {r : NodeSet} (hr : r.home = home) (ss : List Segment) :
    reach lib home registry selector (.given (.set r)) ss =
      reach lib home registry selector (.reached r) ss :=
  reach_given (v := .set r) lib registry selector nofun (Value.nodeSet_set hr) ss

lemma query_from_empty {r : NodeSet} (hr : r.nodes = []) (css : String) :
    Value.query lib home (.text css) (.set r) = .ok (.empty home) := by
  have hscope : Value.scope lib home (.set r) = .ok [] := by
    simp [Value.scope, Value.nodeSet, hr, NodeSet.ofList, firsts, Except.map]
  simp [Value.query, hscope, Library.selectEach, Except.map, NodeSet.sorted, NodeSet.ofList, firsts,
    NodeSet.empty]

/-- A selector written after another one, with a call at the seam, leads to what it leads to from
the nodes of the other; from no nodes its plain segments lead to none. -/
theorem resolve_append (lib : Library) (home : Nat) (first second : String)
    (ss ts : List Segment) (context : Value) (hs : segments first = .ok ss)
    (ht : segments second = .ok ts)
    (seam : (∃ x ∈ ss.getLast?, x.call?.isSome) ∨ ∃ x ∈ ts.head?, x.call?.isSome) :
    (resolve lib home (.builtin : Registry β) (first ++ " " ++ second) context).outcome.mapError
        Fault.unplaced =
      (resolve lib home (.builtin : Registry β) first context >>= fun r =>
        resolve lib home .builtin second (.set r)).outcome.mapError Fault.unplaced ∧
    ∀ r, r.nodes = [] → ∀ text position,
      (applySegment lib home (.builtin : Registry β) second (.ofValue (.set r))
        (.plain text position)).outcome = .ok (.empty home) := by
  refine ⟨?_, fun r hr text position => query_from_empty lib hr text⟩
  obtain ⟨us, hus, hparts⟩ := exists_segments_append hs ht seam
  obtain ⟨-, -, -, hne⟩ := exists_parts_of_segments hs
  rw [← List.map_append] at hparts
  have hat : (Context.ofValue context).AtHome home := by
    intro r hr
    cases context <;> cases hr
  rw [Traced.outcome_bind, resolve_outcome lib home _ _ hus, resolve_outcome lib home _ _ hs,
    reach_congr lib home _ _ first hparts, reach_append, reach]
  simp only [resolve_outcome lib home _ _ ht]
  cases hc : (evaluate lib home (.builtin : Registry β) first (.ofValue context) ss).outcome with
  | error fault => rfl
  | ok c =>
    rcases evaluate_home first hat hc with ⟨hnil, -⟩ | ⟨r, rfl, hr⟩
    · exact absurd hnil hne
    · have hgiven := reach_given_set lib (.builtin : Registry β) second hr ts
      exact (reach_congr lib home _ first second rfl).trans (congrArg _ hgiven.symm)

theorem resolve_append_first :
    let lib : Library := ⟨[⟨.html, [.element "p" [] [.element "b" [] []],
      .element "p" [] [.element "b" [] []]]⟩]⟩
    let registry : Registry Unit := .builtin
    segments "p:first" = .ok [.plain "p" 0, .pseudo ":first" 1 ⟨"first", []⟩] ∧
    segments "b" = .ok [.plain "b" 0] ∧
    (resolve lib 0 registry "p:first b" .none).outcome.map NodeSet.nodes = .ok [⟨0, [0, 0]⟩] ∧
    (resolve lib 0 registry "p:first b" .none).outcome.mapError Fault.unplaced =
      (resolve lib 0 registry "p:first" .none >>= fun r =>
        resolve lib 0 registry "b" (.set r)).outcome.mapError Fault.unplaced := by
  have hs : segments "p:first" = .ok [.plain "p" 0, .pseudo ":first" 1 ⟨"first", []⟩] := by
    decide +kernel
  have ht : segments "b" = .ok [.plain "b" 0] := by decide +kernel
  have seam : ∃ x ∈ [Segment.plain "p" 0, .pseudo ":first" 1 ⟨"first", []⟩].getLast?,
      x.call?.isSome := ⟨_, rfl, rfl⟩
  refine ⟨hs, ht, by decide +kernel, ?_⟩
  exact (resolve_append _ 0 "p:first" "b" _ _ .none hs ht (.inl seam)).1

end Pseudo

end MarkupQuery

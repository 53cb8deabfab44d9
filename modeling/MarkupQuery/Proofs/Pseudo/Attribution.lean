import MarkupQuery.Proofs.Nodes.Faults
import MarkupQuery.Proofs.Pseudo.Calls
import MarkupQuery.Proofs.Selector.Layout

namespace MarkupQuery

def Fault.OfEvaluation : Fault → Prop
  | missingContext _ => True
  | unknownPseudo .. => True
  | _ => False

lemma Fault.OfOperation.not_ofEvaluation {fault : Fault} (h : fault.OfOperation) :
    ¬ fault.OfEvaluation := by
  cases fault <;> first | exact h.elim | exact id

lemma Value.nodeSet_not_ofEvaluation (lib : Library) (home : Nat) (v : Value) :
    FaultsIn (¬ ·.OfEvaluation) (v.nodeSet lib home) := by
  refine (Value.faults_nodeSet_of_any v).mono fun fault h => ?_
  rcases h with h | rfl
  · exact h.not_ofEvaluation
  · exact id

lemma Selector.segments_not_ofEvaluation (selector : String) :
    FaultsIn (¬ ·.OfEvaluation) (segments selector) := by
  rw [segments]
  cases segmentsOf selector.toList with
  | ok ss => exact .ok ss
  | error stop => cases stop <;> exact .error id

namespace Pseudo

open Selector Text

variable {β : Type} {lib : Library} {home : Nat} {registry : Registry β} {selector : String}
  {context : Value} {c d : Context} {x : Segment} {ss before after : List Segment} {fault : Fault}

def Registry.Ordinary (lib : Library) (r : Registry β) : Prop :=
  ∀ name handler, r.extras.lookup name = some (some handler) →
    ∀ s values, FaultsIn (¬ ·.OfEvaluation) (handler lib s values).outcome

lemma Registry.Ordinary.handler (hr : registry.Ordinary lib) {name : String} {handler : Handler β}
    (hh : registry.handler? name = some handler) (s : NodeSet) (arguments : List Argument) :
    FaultsIn (¬ ·.OfEvaluation) (handler lib s (argumentValues arguments)).outcome := by
  rw [Registry.handler?] at hh
  split at hh
  · next h hlookup =>
    subst hh
    exact hr name handler hlookup s _
  · obtain ⟨op, -, rfl⟩ := Option.map_eq_some_iff.mp hh
    have hop : FaultsIn Fault.OfOperation (applyBuiltin lib op s (argumentValues arguments)) :=
      faults_applyBuiltin (fun a _ => (isArgument_argumentValue a).failsIn) fun _ => trivial
    exact (hop.mono fun _ => Fault.OfOperation.not_ofEvaluation).map _

lemma exists_of_applySegment_error (hr : registry.Ordinary lib) (he : fault.OfEvaluation)
    (h : (applySegment lib home registry selector c x).outcome = .error fault) :
    ∃ text position call, x = .pseudo text position call ∧
      (c = .unset ∧ fault = .missingContext (some (⟨text, position⟩, selector)) ∨
        c ≠ .unset ∧ registry.handler? call.name = none ∧
          fault = .unknownPseudo call.name ⟨text, position⟩ selector) := by
  cases x with
  | plain text position =>
    have hquery : FaultsIn (¬ ·.OfEvaluation) (Value.query lib home (.text text) c.value) :=
      Value.faults_query
        (fun css _ =>
          (Library.faults_selectorOf _).mono fun _ => Fault.OfOperation.not_ofEvaluation)
        (Value.nodeSet_not_ofEvaluation lib home _) (Value.nodeSet_not_ofEvaluation lib home _)
    exact absurd he (hquery fault h)
  | pseudo text position call =>
    refine ⟨text, position, call, rfl, ?_⟩
    rw [applySegment, applyCall] at h
    split at h
    · next hu =>
      cases c with
      | unset => exact .inl ⟨rfl, (Except.error.inj h).symm⟩
      | given | reached => cases hu
    next hu =>
    have hc : c ≠ .unset := by
      rintro rfl
      exact hu rfl
    split at h
    · next hh => exact .inr ⟨hc, hh, (Except.error.inj h).symm⟩
    · next handler hh =>
      -- With a handler at hand the fault is one of wrapping or of the handler.
      have hnodes : FaultsIn (¬ ·.OfEvaluation) (c.nodeSet lib home) := by
        cases c with
        | unset => exact absurd rfl hc
        | given v => exact Value.nodeSet_not_ofEvaluation lib home v
        | reached s => exact .ok s
      have hresult (v : Value) : FaultsIn (¬ ·.OfEvaluation) (resultSet lib home v) := by
        unfold resultSet
        split
        · exact .ok _
        · exact Value.nodeSet_not_ofEvaluation lib home _
      rw [Traced.outcome_bind] at h
      refine absurd he (hnodes.bind (fun s => ?_) fault h)
      rw [Traced.outcome_bind]
      exact (hr.handler hh s _).bind hresult

lemma applySegment_unset (text : String) (position : Nat) (call : Call) :
    (applySegment lib home registry selector .unset (.pseudo text position call)).outcome =
      .error (.missingContext (some (⟨text, position⟩, selector))) :=
  rfl

lemma applySegment_unknown {text : String} {position : Nat} {call : Call} (hc : c ≠ .unset)
    (hh : registry.handler? call.name = none) :
    (applySegment lib home registry selector c (.pseudo text position call)).outcome =
      .error (.unknownPseudo call.name ⟨text, position⟩ selector) := by
  rw [applySegment, applyCall, hh]
  cases c with
  | unset => exact absurd rfl hc
  | given | reached => rfl

lemma evaluate_reached (h : (evaluate lib home registry selector c ss).outcome = .ok d) :
    ss = [] ∧ d = c ∨ ∃ s, d = .reached s := by
  cases ss with
  | nil => exact .inl ⟨rfl, (Except.ok.inj h).symm⟩
  | cons x ss =>
    rw [evaluate_cons] at h
    obtain ⟨s, -, h⟩ := exists_of_bind h
    obtain ⟨t, ht, -⟩ := evaluate_keeps lib home registry selector (P := fun _ => True)
      (fun _ _ _ _ _ _ => trivial) trivial h
    exact .inr ⟨t, ht⟩

lemma evaluate_append_error (hc : (evaluate lib home registry selector d before).outcome = .ok c)
    (hx : (applySegment lib home registry selector c x).outcome = .error fault) :
    (evaluate lib home registry selector d (before ++ x :: after)).outcome = .error fault := by
  rw [evaluate_append, hc, Except.bind, evaluate_cons, hx]
  rfl

lemma Context.ofValue_eq_unset_iff : Context.ofValue context = .unset ↔ context = .none := by
  cases context <;> simp [Context.ofValue]

lemma resolve_eq_error_iff (hs : segments selector = .ok ss) :
    (resolve lib home registry selector context).outcome = .error fault ↔
      (evaluate lib home registry selector (.ofValue context) ss).outcome = .error fault := by
  obtain ⟨-, -, -, hne⟩ := exists_parts_of_segments hs
  rw [resolve_outcome lib home registry selector hs, reach]
  cases hd : (evaluate lib home registry selector (.ofValue context) ss).outcome with
  | error fault' => simp [Except.bind]
  | ok d =>
    rcases evaluate_reached hd with ⟨hnil, -⟩ | ⟨s, rfl⟩
    · exact absurd hnil hne
    · simp [Except.bind, Context.nodeSet]

lemma exists_of_resolve_error (hr : registry.Ordinary lib)
    (h : (resolve lib home registry selector context).outcome = .error fault)
    (he : fault.OfEvaluation) :
    ∃ before text position call after d,
      segments selector = .ok (before ++ .pseudo text position call :: after) ∧
      (evaluate lib home registry selector (.ofValue context) before).outcome = .ok d ∧
      (before = [] ∧ context = .none ∧
          fault = .missingContext (some (⟨text, position⟩, selector)) ∨
        d ≠ .unset ∧ registry.handler? call.name = none ∧
          fault = .unknownPseudo call.name ⟨text, position⟩ selector) := by
  cases hs : segments selector with
  | error fault' =>
    rw [resolve_of_segments_error hs] at h
    obtain rfl := Except.error.inj h
    exact absurd he (segments_not_ofEvaluation selector _ hs)
  | ok ss =>
    rw [resolve_eq_error_iff hs] at h
    obtain ⟨before, x, after, d, rfl, hd, hx, -⟩ :=
      exists_observations_of_error lib home registry selector h
    obtain ⟨text, position, call, rfl, hcall⟩ := exists_of_applySegment_error hr he hx
    refine ⟨before, text, position, call, after, d, rfl, hd, hcall.imp_left ?_⟩
    rintro ⟨rfl, rfl⟩
    rcases evaluate_reached hd with ⟨hnil, hunset⟩ | ⟨s, hs⟩
    · exact ⟨hnil, Context.ofValue_eq_unset_iff.mp hunset.symm, rfl⟩
    · cases hs

lemma missingContext_iff (hr : registry.Ordinary lib) :
    (∃ place, (resolve lib home registry selector context).outcome =
        .error (.missingContext place)) ↔
      (∃ ss, segments selector = .ok ss) ∧ context = .none ∧
        (trimStart selector.toList).head? = some ':' := by
  constructor
  · rintro ⟨place, h⟩
    obtain ⟨before, text, position, call, after, d, hs, -, hcall⟩ :=
      exists_of_resolve_error hr h trivial
    obtain ⟨rfl, rfl, -⟩ | ⟨-, -, hfault⟩ := hcall
    · exact ⟨⟨_, hs⟩, rfl, (head?_trimStart_iff hs).mpr rfl⟩
    · cases hfault
  · rintro ⟨⟨ss, hs⟩, rfl, hhead⟩
    obtain ⟨-, -, -, hne⟩ := exists_parts_of_segments hs
    obtain ⟨x, xs, rfl⟩ := List.exists_cons_of_ne_nil hne
    have hcall := (head?_trimStart_iff hs).mp hhead
    cases x with
    | plain => cases hcall
    | pseudo text position call =>
      have hstart : (evaluate lib home registry selector (.ofValue .none) []).outcome =
          .ok .unset := rfl
      exact ⟨_, (resolve_eq_error_iff hs).mpr
        (evaluate_append_error hstart (applySegment_unset text position call))⟩

lemma unknownPseudo_iff (hr : registry.Ordinary lib)
    (hm : ∀ place, (resolve lib home registry selector context).outcome ≠
      .error (.missingContext place)) (name : String) (place : Place) :
    (resolve lib home registry selector context).outcome =
        .error (.unknownPseudo name place selector) ↔
      ∃ before call after d,
        segments selector = .ok (before ++ .pseudo place.segment place.position call :: after) ∧
        call.name = name ∧ registry.handler? name = none ∧
        (evaluate lib home registry selector (.ofValue context) before).outcome = .ok d := by
  constructor
  · intro h
    obtain ⟨before, text, position, call, after, d, hs, hd, hcall⟩ :=
      exists_of_resolve_error hr h trivial
    obtain ⟨-, -, hfault⟩ | ⟨-, hh, hfault⟩ := hcall
    · cases hfault
    · obtain ⟨rfl, rfl, -⟩ := Fault.unknownPseudo.inj hfault
      exact ⟨before, call, after, d, hs, rfl, hh, hd⟩
  · rintro ⟨before, call, after, d, hs, rfl, hh, hd⟩
    refine (resolve_eq_error_iff hs).mpr (evaluate_append_error hd (applySegment_unknown ?_ hh))
    -- Without a context the fault would be another one.
    rintro rfl
    exact hm _ ((resolve_eq_error_iff hs).mpr (evaluate_append_error hd (applySegment_unset _ _ _)))

lemma exists_place_of_resolve_error (hr : registry.Ordinary lib)
    (h : (resolve lib home registry selector context).outcome = .error fault)
    (he : fault.OfEvaluation) :
    ∃ place, fault.place? = some place ∧ fault.selector? = some selector ∧
      (selector.toList.drop place.position).take place.segment.length = place.segment.toList ∧
      place.segment.toList.head? = some ':' := by
  obtain ⟨before, text, position, call, after, d, hs, -, hcall⟩ := exists_of_resolve_error hr h he
  have hx : Segment.pseudo text position call ∈
      before ++ .pseudo text position call :: after := by simp
  have hlaid := laid_segments hs
  obtain ⟨rest, htext⟩ : ':' :: call.name.toList <+: text.toList := hlaid.exact _ hx
  refine ⟨⟨text, position⟩, ?_, ?_, hlaid.slice List.length_nil _ hx, by simp [← htext]⟩
  · obtain ⟨-, -, rfl⟩ | ⟨-, -, rfl⟩ := hcall <;> rfl
  · obtain ⟨-, -, rfl⟩ | ⟨-, -, rfl⟩ := hcall <;> rfl

lemma calls_of_ok {s : NodeSet} (hs : segments selector = .ok ss)
    (h : (resolve lib home registry selector context).outcome = .ok s) :
    calls lib home registry selector context = callsOf ss := by
  rw [resolve_outcome lib home registry selector hs] at h
  obtain ⟨d, hd, -⟩ := exists_of_bind h
  rw [calls_of_segments hs, observations_evaluate lib home registry selector hd]

lemma exists_calls_of_error (hs : segments selector = .ok ss)
    (h : (resolve lib home registry selector context).outcome = .error fault) :
    ∃ before x after d, ss = before ++ x :: after ∧
      (evaluate lib home registry selector (.ofValue context) before).outcome = .ok d ∧
      (applySegment lib home registry selector d x).outcome = .error fault ∧
      calls lib home registry selector context =
        callsOf before ++ callMade lib home registry d x := by
  rw [calls_of_segments hs]
  exact exists_observations_of_error lib home registry selector ((resolve_eq_error_iff hs).mp h)

structure Attribution (lib : Library) (home : Nat) (registry : Registry β) (selector : String)
    (context : Value) : Prop where
  missing : (∃ place, (resolve lib home registry selector context).outcome =
      .error (.missingContext place)) ↔
    (∃ ss, segments selector = .ok ss) ∧ context = .none ∧
      (trimStart selector.toList).head? = some ':'
  unset : (resolve lib home registry selector context).outcome ≠ .error (.missingContext none)
  unknown : (∀ place, (resolve lib home registry selector context).outcome ≠
      .error (.missingContext place)) → ∀ name place,
    ((resolve lib home registry selector context).outcome =
        .error (.unknownPseudo name place selector) ↔
      ∃ before call after d,
        segments selector = .ok (before ++ .pseudo place.segment place.position call :: after) ∧
        call.name = name ∧ registry.handler? name = none ∧
        (evaluate lib home registry selector (.ofValue context) before).outcome = .ok d)
  placed : ∀ fault, (resolve lib home registry selector context).outcome = .error fault →
    fault.OfEvaluation → ∃ place, fault.place? = some place ∧ fault.selector? = some selector ∧
      (selector.toList.drop place.position).take place.segment.length = place.segment.toList ∧
      place.segment.toList.head? = some ':'
  noted : (resolve lib home registry.noting selector context).outcome =
    (resolve lib home registry selector context).outcome
  unread : ∀ fault, segments selector = .error fault →
    calls lib home registry selector context = []
  finished : ∀ ss s, segments selector = .ok ss →
    (resolve lib home registry selector context).outcome = .ok s →
      calls lib home registry selector context = callsOf ss
  failed : ∀ ss fault, segments selector = .ok ss →
    (resolve lib home registry selector context).outcome = .error fault →
      ∃ before x after d, ss = before ++ x :: after ∧
        (evaluate lib home registry selector (.ofValue context) before).outcome = .ok d ∧
        (applySegment lib home registry selector d x).outcome = .error fault ∧
        calls lib home registry selector context =
          callsOf before ++ callMade lib home registry d x

/-- Handlers that do not raise the faults of evaluation leave them to the segments that cause
them, and are called from left to right. -/
theorem resolve_attribution (lib : Library) (home : Nat) (registry : Registry β)
    (selector : String) (context : Value) (hr : registry.Ordinary lib) :
    Attribution lib home registry selector context where
  missing := missingContext_iff hr
  unset h := by
    obtain ⟨place, hplace, -⟩ := exists_place_of_resolve_error hr h trivial
    cases hplace
  unknown := unknownPseudo_iff hr
  placed _ h he := exists_place_of_resolve_error hr h he
  noted := resolve_noting context
  unread _ hs := calls_of_segments_error hs
  finished _ _ hs h := calls_of_ok hs h
  failed _ _ hs h := exists_calls_of_error hs h

theorem resolve_attribution_unknown :
    let lib : Library := ⟨[⟨.html, [.element "p" [] []]⟩]⟩
    let registry : Registry Observation :=
      ⟨[("mark", some (Handler.observing "mark")), ("first", none)]⟩
    let s := " p:mark:first:mark"
    registry.Ordinary lib ∧
    (resolve lib 0 registry s .none).outcome.map NodeSet.nodes =
      .error (.unknownPseudo "first" ⟨":first", 7⟩ s) ∧
    (calls lib 0 registry s .none).map Prod.fst = ["mark"] ∧
    Attribution lib 0 registry s .none := by
  intro lib registry s
  have hr : registry.Ordinary lib := by
    intro name handler h nodes values
    rw [List.lookup_cons, List.lookup_cons, List.lookup_nil] at h
    split at h
    · obtain rfl := Option.some.inj (Option.some.inj h)
      exact .ok _
    · split at h <;> cases h
  have hs : segments s = .ok [.plain "p" 1, .pseudo ":mark" 2 ⟨"mark", []⟩,
      .pseudo ":first" 7 ⟨"first", []⟩, .pseudo ":mark" 13 ⟨"mark", []⟩] := by decide +kernel
  refine ⟨hr, ?_, ?_, resolve_attribution lib 0 registry s .none hr⟩
  · rw [resolve_outcome lib 0 registry s hs]
    decide +kernel
  · rw [calls_of_segments hs]
    decide +kernel

end Pseudo

end MarkupQuery

import MarkupQuery.Proofs.Pseudo.Composition
import MarkupQuery.Pseudo.Handler

namespace MarkupQuery.Pseudo

open Selector

variable {β : Type} (lib : Library) (home : Nat) (registry : Registry β) (selector : String)
  {context : Context} {segment : Segment} {ss : List Segment}

def Handler.noting (name : String) (handler : Handler β) : Handler Observation :=
  fun lib s values => do
    Traced.observe ⟨name, values, s.size⟩
    .ofExcept (handler lib s values).outcome

def Registry.noting (r : Registry β) : Registry Observation where
  extras := r.extras.map (fun e => (e.1, e.2.map (Handler.noting e.1))) ++
    builtins.map fun b => (b.1, some (Handler.noting b.1 (Handler.builtin b.2 : Handler β)))

def Observation.call (o : Observation) : String × List Value := (o.name, o.arguments)

def callsOf (ss : List Segment) : List (String × List Value) :=
  (ss.filterMap Segment.call?).map fun call => (call.name, argumentValues call.arguments)

def callMade (context : Context) : Segment → List (String × List Value)
  | .plain .. => []
  | .pseudo _ _ call =>
    match registry.handler? call.name, context.nodeSet lib home with
    | some _, .ok _ => [(call.name, argumentValues call.arguments)]
    | _, _ => []

lemma lookup_map {α γ : Type} (f : String → α → γ) (name : String) (as : List (String × α)) :
    (as.map fun a => (a.1, f a.1 a.2)).lookup name = (as.lookup name).map (f name) := by
  induction as with
  | nil => rfl
  | cons a as ih =>
    obtain ⟨key, a⟩ := a
    rw [List.map_cons, List.lookup_cons, List.lookup_cons, ih]
    by_cases h : name = key
    · subst h
      simp
    · have hb : (name == key) = false := beq_false_of_ne h
      rw [hb]

lemma handler?_noting (name : String) :
    registry.noting.handler? name = (registry.handler? name).map (Handler.noting name) := by
  have hextras := lookup_map (fun name (h : Option (Handler β)) => h.map (Handler.noting name)) name
    registry.extras
  have hbuiltins := lookup_map
    (fun name op => some (Handler.noting name (Handler.builtin op : Handler β))) name builtins
  rw [Registry.handler?, Registry.noting, List.lookup_append, hextras, hbuiltins, Registry.handler?]
  cases registry.extras.lookup name with
  | some handler => rfl
  | none => cases builtins.lookup name <;> rfl

lemma observations_noting (handler : Handler β) (name : String) (s : NodeSet)
    (values : List Value) :
    (Handler.noting name handler lib s values).observations = [⟨name, values, s.size⟩] := by
  rw [Handler.noting, Traced.observations_bind]
  rfl

lemma applySegment_noting :
    (applySegment lib home registry.noting selector context segment).outcome =
      (applySegment lib home registry selector context segment).outcome := by
  cases segment with
  | plain text position => rfl
  | pseudo text position call =>
    simp only [applySegment, applyCall, handler?_noting]
    split
    · rfl
    cases registry.handler? call.name with
    | none => rfl
    | some handler =>
      simp only [Option.map_some, Traced.outcome_bind, Handler.noting]
      rfl

lemma evaluate_noting :
    (evaluate lib home registry.noting selector context ss).outcome =
      (evaluate lib home registry selector context ss).outcome := by
  induction ss generalizing context with
  | nil => rfl
  | cons segment ss ih =>
    rw [evaluate_cons, evaluate_cons, applySegment_noting]
    exact congrArg _ (funext fun s => ih)

lemma callMade_of_ok {s : NodeSet}
    (h : (applySegment lib home registry selector context segment).outcome = .ok s) :
    callMade lib home registry context segment = callsOf [segment] := by
  cases segment with
  | plain text position => rfl
  | pseudo text position call =>
    simp only [applySegment, applyCall] at h
    split at h
    · cases h
    split at h
    · cases h
    · next handler hh =>
      rw [Traced.outcome_bind] at h
      obtain ⟨r, hr, -⟩ := exists_of_bind h
      have hr : context.nodeSet lib home = .ok r := hr
      simp only [callMade, hh, hr]
      rfl

lemma observations_applySegment :
    (applySegment lib home registry.noting selector context segment).observations.map
      Observation.call = callMade lib home registry context segment := by
  cases segment with
  | plain text position => rfl
  | pseudo text position call =>
    simp only [applySegment, applyCall, handler?_noting, callMade]
    split
    · next hu =>
      cases context with
      | unset => cases registry.handler? call.name <;> rfl
      | _ => cases hu
    cases registry.handler? call.name with
    | none => rfl
    | some handler =>
      simp only [Option.map_some, Traced.observations_bind, observations_noting]
      cases context.nodeSet lib home with
      | error fault => rfl
      | ok s =>
        simp only [Traced.ofExcept]
        cases (Handler.noting call.name handler lib s (argumentValues call.arguments)).outcome <;>
          rfl

lemma observations_evaluate_cons :
    (evaluate lib home registry selector context (segment :: ss)).observations =
      (applySegment lib home registry selector context segment).observations ++
        match (applySegment lib home registry selector context segment).outcome with
        | .ok s => (evaluate lib home registry selector (.reached s) ss).observations
        | .error _ => [] := by
  rw [evaluate, Traced.observations_bind]
  refine congrArg _ ?_
  cases (applySegment lib home registry selector context segment).outcome <;> rfl

lemma callsOf_cons (segment : Segment) (ss : List Segment) :
    callsOf (segment :: ss) = callsOf [segment] ++ callsOf ss := by
  cases segment <;> rfl

lemma observations_evaluate {c : Context}
    (h : (evaluate lib home registry selector context ss).outcome = .ok c) :
    (evaluate lib home registry.noting selector context ss).observations.map Observation.call =
      callsOf ss := by
  induction ss generalizing context with
  | nil => rfl
  | cons segment ss ih =>
    rw [evaluate_cons] at h
    obtain ⟨s, hs, h⟩ := exists_of_bind h
    rw [observations_evaluate_cons, List.map_append, observations_applySegment,
      applySegment_noting, hs, callMade_of_ok lib home registry selector hs,
      callsOf_cons segment ss]
    exact congrArg _ (ih h)

lemma exists_observations_of_error {fault : Fault}
    (h : (evaluate lib home registry selector context ss).outcome = .error fault) :
    ∃ done x rest c, ss = done ++ x :: rest ∧
      (evaluate lib home registry selector context done).outcome = .ok c ∧
      (applySegment lib home registry selector c x).outcome = .error fault ∧
      (evaluate lib home registry.noting selector context ss).observations.map Observation.call =
        callsOf done ++ callMade lib home registry c x := by
  induction ss generalizing context with
  | nil => cases h
  | cons segment ss ih =>
    rw [evaluate_cons] at h
    rw [observations_evaluate_cons, List.map_append, observations_applySegment,
      applySegment_noting]
    cases hs : (applySegment lib home registry selector context segment).outcome with
    | error fault' =>
      rw [hs] at h
      obtain rfl : fault' = fault := Except.error.inj h
      exact ⟨[], segment, ss, context, rfl, rfl, hs, List.append_nil _⟩
    | ok s =>
      rw [hs] at h
      obtain ⟨done, x, rest, c, rfl, hc, hx, hcalls⟩ := ih h
      refine ⟨segment :: done, x, rest, c, rfl, ?_, hx, ?_⟩
      · rw [evaluate_cons, hs]
        exact hc
      · rw [callMade_of_ok lib home registry selector hs, callsOf_cons segment done,
          List.append_assoc]
        exact congrArg _ hcalls

lemma announce_observations (r : Registry β) {γ : Type} :
    (r.announce : Traced γ Unit).observations = [] := by
  unfold Registry.announce
  split <;> rfl

variable {lib home registry selector}

lemma resolve_of_segments_error {context : Value} {fault : Fault}
    (hs : segments selector = .error fault) :
    (resolve lib home registry selector context).outcome = .error fault := by
  rw [resolve, Traced.outcome_bind, announce_outcome, Except.bind, Traced.outcome_bind,
    Traced.ofExcept, hs]
  rfl

lemma resolve_noting (context : Value) :
    (resolve lib home registry.noting selector context).outcome =
      (resolve lib home registry selector context).outcome := by
  cases hs : segments selector with
  | error fault => rw [resolve_of_segments_error hs, resolve_of_segments_error hs]
  | ok ss =>
    rw [resolve_outcome lib home _ selector hs, resolve_outcome lib home _ selector hs, reach,
      evaluate_noting, ← reach]

def calls (lib : Library) (home : Nat) (registry : Registry β) (selector : String)
    (context : Value) : List (String × List Value) :=
  (resolve lib home registry.noting selector context).observations.map Observation.call

lemma calls_of_segments_error {context : Value} {fault : Fault}
    (hs : segments selector = .error fault) : calls lib home registry selector context = [] := by
  rw [calls, resolve, Traced.observations_bind, announce_observations, announce_outcome,
    Traced.observations_bind, Traced.ofExcept, hs]
  rfl

lemma calls_of_segments {context : Value} (hs : segments selector = .ok ss) :
    calls lib home registry selector context =
      (evaluate lib home registry.noting selector (.ofValue context) ss).observations.map
        Observation.call := by
  rw [calls, resolve, Traced.observations_bind, announce_observations, announce_outcome,
    Traced.observations_bind, Traced.ofExcept, hs]
  refine congrArg _ ((Traced.observations_bind _ _).trans ?_)
  cases (evaluate lib home registry.noting selector (.ofValue context) ss).outcome <;>
    exact List.append_nil _

end MarkupQuery.Pseudo

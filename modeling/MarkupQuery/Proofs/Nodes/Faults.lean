import MarkupQuery.Proofs.Nodes.Home
import MarkupQuery.Proofs.Nodes.Membership
import MarkupQuery.Pseudo.Evaluation

namespace MarkupQuery

def FaultsIn {α : Type} (p : Fault → Prop) (r : Except Fault α) : Prop :=
  ∀ fault, r = .error fault → p fault

def Fault.OfOperation : Fault → Prop
  | malformed .css _ _ => True
  | malformed (.unselectable _) _ _ => True
  | codeLimit => True
  | unsupported => True
  | arity => True
  | _ => False

def Value.IsArgument : Value → Prop
  | none | text _ | int _ => True
  | _ => False

variable {α β : Type} {p q : Fault → Prop} {as : List α}

namespace FaultsIn

lemma ok (a : α) : FaultsIn p (.ok a) := nofun

lemma error {fault : Fault} (h : p fault) : FaultsIn p (.error fault : Except Fault α) := by
  rintro _ ⟨⟩
  exact h

lemma mono {r : Except Fault α} (h : FaultsIn p r) (hpq : ∀ fault, p fault → q fault) :
    FaultsIn q r :=
  fun fault hr => hpq fault (h fault hr)

lemma bind {r : Except Fault α} {k : α → Except Fault β} (h : FaultsIn p r)
    (hk : ∀ a, FaultsIn p (k a)) : FaultsIn p (r.bind k) := by
  cases r with
  | error fault => exact error (h fault rfl)
  | ok a => exact hk a

lemma exists_ok {r : Except Fault α} (h : FaultsIn (fun _ => False) r) : ∃ a, r = .ok a := by
  cases r with
  | error fault => exact (h fault rfl).elim
  | ok a => exact ⟨a, rfl⟩

lemma map {r : Except Fault α} (h : FaultsIn p r) (f : α → β) : FaultsIn p (r.map f) := by
  cases r with
  | error fault => exact error (h fault rfl)
  | ok a => exact ok (f a)

lemma keep {test : α → Except Fault Bool} (h : ∀ a, FaultsIn p (test a)) :
    FaultsIn p (MarkupQuery.keep test as) := by
  induction as with
  | nil => exact ok []
  | cons a as ih =>
    rw [MarkupQuery.keep]
    split
    · next fault ha => exact error (h a fault ha)
    · exact ih.map _
    · exact ih

lemma firstKept {test : α → Except Fault Bool} (h : ∀ a, FaultsIn p (test a)) :
    FaultsIn p (firstKept? test as) := by
  induction as with
  | nil => exact ok none
  | cons a as ih =>
    rw [firstKept?]
    split
    · next fault ha => exact error (h a fault ha)
    · exact ok (some a)
    · exact ih

lemma collect {step : α → Except Fault (Option β)} (h : ∀ a, FaultsIn p (step a)) :
    FaultsIn p (MarkupQuery.collect step as) := by
  induction as with
  | nil => exact ok []
  | cons a as ih =>
    rw [MarkupQuery.collect]
    split
    · next fault ha => exact error (h a fault ha)
    · exact ih.map _

end FaultsIn

variable {lib : Library} {home : Nat} {s : NodeSet} {v context : Value} {css : String}

namespace Library

lemma faults_selectorOf (css : String) : FaultsIn Fault.OfOperation (selectorOf css) := by
  rw [selectorOf]
  cases Css.Selector.ofText css with
  | error refusal => cases refusal <;> exact .error trivial
  | ok s => exact .ok s

lemma faults_select (h : FaultsIn p (selectorOf (anchored css))) (n : Node) :
    FaultsIn p (lib.select n css) :=
  h.map _

lemma faults_accepts (h : FaultsIn p (selectorOf css)) (n : Node) :
    FaultsIn p (lib.accepts n css) :=
  h.map _

lemma faults_selectEach (h : FaultsIn p (selectorOf (anchored css))) (ns : List Node) :
    FaultsIn p (lib.selectEach css ns) := by
  induction ns with
  | nil => exact .ok []
  | cons n ns ih =>
    rw [selectEach]
    split
    · next fault hn => exact .error (faults_select h n fault hn)
    · exact ih.map _

end Library

namespace Value

-- Whether an argument goes wrong in some ways only: a text where it is read as CSS, a number where
-- nodes are wanted.
def FailsIn (p : Fault → Prop) : Value → Prop
  | none => True
  | text css => FaultsIn p (Library.selectorOf css) ∧
    FaultsIn p (Library.selectorOf (Library.anchored css))
  | int i => p (unselectable (toString i))
  | _ => False

lemma IsArgument.failsIn (hv : v.IsArgument) : v.FailsIn Fault.OfOperation := by
  cases v with
  | none | int => trivial
  | text css => exact ⟨Library.faults_selectorOf css, Library.faults_selectorOf _⟩
  | _ => exact hv.elim

lemma FailsIn.isArgument (hv : v.FailsIn p) : v.IsArgument := by
  cases v with
  | none | text | int => trivial
  | _ => exact hv.elim

lemma faults_query (hcss : ∀ css, v = .text css → FaultsIn p (Library.selectorOf
      (Library.anchored css))) (hv : FaultsIn p (v.nodeSet lib home))
    (hc : FaultsIn p (context.nodeSet lib home)) : FaultsIn p (v.query lib home context) := by
  cases v with
  | text css =>
    cases context with
    | none => exact (Library.faults_select (hcss css rfl) _).map _
    | _ =>
      simp only [query]
      split
      · next fault hscope => exact .error (hc.map _ fault hscope)
      · exact (Library.faults_selectEach (hcss css rfl) _).map _
  | _ => exact hv

lemma faults_nodeSet_of_any (v : Value) :
    FaultsIn (fun fault => fault.OfOperation ∨ fault = .notNodes) (v.nodeSet lib home) := by
  cases v with
  | text css =>
    exact ((Library.faults_select (Library.faults_selectorOf _) _).map _).mono fun _ => .inl
  | int | bool | float => exact .error (.inl trivial)
  | predicate => exact .error (.inr rfl)
  | _ => exact .ok _

lemma faults_nodeSet (hv : v.FailsIn p) : FaultsIn p (v.nodeSet lib home) := by
  cases v with
  | none => exact .ok _
  | text css => exact (Library.faults_select hv.2 _).map _
  | int i => exact .error hv
  | _ => exact hv.elim

lemma faults_admits (hv : v.FailsIn p) (n : Node) : FaultsIn p (v.admits lib home n) := by
  cases v with
  | none => exact .ok true
  | text css =>
    simp only [admits, cssText?]
    split
    · exact Library.faults_accepts hv.1 n
    · exact .ok false
  | int i => exact .error hv
  | _ => exact hv.elim

lemma faults_index (hv : v.IsArgument) (default : Option Int) :
    FaultsIn p (v.index? lib default) := by
  cases v with
  | none | text | int => exact .ok _
  | _ => exact hv.elim

end Value

namespace NodeSet

lemma faults_derive (hv : v.FailsIn p) (step : Node → List Node) :
    FaultsIn p (s.derive lib step v) :=
  (FaultsIn.keep (Value.faults_admits hv)).map _

lemma faults_deriveReversed (hv : v.FailsIn p) (step : Node → List Node) :
    FaultsIn p (s.deriveReversed lib step v) :=
  (FaultsIn.keep (Value.faults_admits hv)).map _

lemma faults_closest (hv : v.FailsIn p) : FaultsIn p (s.closest lib v) := by
  by_cases hnone : v = .none
  · subst hnone
    exact .ok _
  · rw [closest_of_given hnone]
    exact (FaultsIn.collect fun n => FaultsIn.firstKept (Value.faults_admits hv)).map _

lemma faults_filter (hv : v.FailsIn p) : FaultsIn p (s.filter lib v) := by
  by_cases hnone : v = .none
  · subst hnone
    exact .ok _
  · rw [filter_of_given hnone]
    exact (FaultsIn.keep (Value.faults_admits hv)).map _

lemma faults_exclude (hv : v.FailsIn p) : FaultsIn p (s.exclude lib v) := by
  by_cases hnone : v = .none
  · subst hnone
    exact .ok _
  · rw [exclude_of_given hnone]
    exact (FaultsIn.keep fun n => (Value.faults_admits hv n).map _).map _

lemma faults_has (hv : v.FailsIn p) : FaultsIn p (s.has lib v) := by
  cases v with
  | none => exact .ok _
  | text css =>
    have hcss : (Value.text css).cssText? lib = some css := rfl
    rw [has_of_css hcss]
    refine (FaultsIn.keep fun n => ?_).map _
    split
    · exact (Library.faults_select hv.2 n).map _
    · exact .ok false
  | int i => exact .error hv
  | _ => exact hv.elim

lemma faults_eq (hv : v.IsArgument) : FaultsIn p (s.eq lib v) :=
  (Value.faults_index hv _).map _

lemma faults_slice {start stop : Value} (hstart : start.IsArgument) (hstop : stop.IsArgument) :
    FaultsIn p (s.slice lib start stop) :=
  (Value.faults_index hstart _).bind fun _ => (Value.faults_index hstop _).bind fun _ => .ok _

lemma faults_add (hv : v.FailsIn p) : FaultsIn p (s.add lib v .none) := by
  cases v with
  | none => exact .ok _
  | text css => exact ((Library.faults_select hv.2 _).map _).map _
  | int i => exact .error hv
  | _ => exact hv.elim

end NodeSet

namespace Pseudo

open Selector

variable {op : Operation} {arguments : List Argument}

def Operation.Takes (op : Operation) (n : Nat) : Prop :=
  match op with
  | contents | first | last => True
  | slice => n ≤ 2
  | _ => n ≤ 1

lemma Operation.faults_select {f : NodeSet → Value → Except Fault NodeSet}
    (hf : op.select? lib = some f) (hv : v.FailsIn p) : FaultsIn p (f s v) := by
  cases op <;> cases hf
  case closest => exact NodeSet.faults_closest hv
  case filter => exact NodeSet.faults_filter hv
  case exclude => exact NodeSet.faults_exclude hv
  case has => exact NodeSet.faults_has hv
  case parents => exact NodeSet.faults_deriveReversed hv _
  case prevAll => exact NodeSet.faults_deriveReversed hv _
  all_goals exact NodeSet.faults_derive hv _

lemma isArgument_argumentValue (a : Argument) : (argumentValue a).IsArgument := by
  cases a <;> trivial

lemma applyBuiltin_of_select {f : NodeSet → Value → Except Fault NodeSet}
    (hf : op.select? lib = some f) (s : NodeSet) (values : List Value) :
    applyBuiltin lib op s values = op.apply lib s values := by
  cases op <;> first | rfl | cases hf

lemma applyBuiltin_eq_of_given (hv : v ≠ .none) :
    applyBuiltin lib .eq s [v] = s.eq lib v := by
  cases v <;> first | rfl | exact absurd rfl hv

lemma applyBuiltin_of_not_takes (h : ¬ op.Takes arguments.length) :
    applyBuiltin lib op s (argumentValues arguments) = .error .arity := by
  rcases arguments with _ | ⟨a, _ | ⟨b, as⟩⟩
  · exact absurd (by cases op <;> simp [Operation.Takes]) h
  · exact absurd (by cases op <;> simp [Operation.Takes]) h
  cases op with
  | contents | first | last => exact absurd trivial h
  | slice =>
    cases as with
    | nil => exact absurd (Nat.le_refl 2) h
    | cons c as => rfl
  | eq => cases a <;> rfl
  | _ => rfl

lemma faults_applyBuiltin_single (hv : v.FailsIn p) : FaultsIn p (applyBuiltin lib op s [v]) := by
  cases hf : op.select? lib with
  | some f =>
    rw [applyBuiltin_of_select hf, Operation.apply_of_select hf]
    exact Operation.faults_select hf hv
  | none =>
    cases op with
    | contents | first | last => exact .ok _
    | find =>
      have hcontext : FaultsIn p ((Value.set s).nodeSet lib s.home) := .ok _
      refine Value.faults_query (fun css hcss => ?_) (Value.faults_nodeSet hv) hcontext
      subst hcss
      exact hv.2
    | eq =>
      by_cases hnone : v = .none
      · subst hnone
        change FaultsIn p (s.eq lib (.int 0))
        exact NodeSet.faults_eq trivial
      · rw [applyBuiltin_eq_of_given hnone]
        exact NodeSet.faults_eq hv.isArgument
    | slice => exact NodeSet.faults_slice hv.isArgument trivial
    | add => exact NodeSet.faults_add hv
    | _ => cases hf

lemma faults_applyBuiltin (hv : ∀ a ∈ arguments, (argumentValue a).FailsIn p)
    (harity : ¬ op.Takes arguments.length → p .arity) :
    FaultsIn p (applyBuiltin lib op s (argumentValues arguments)) := by
  by_cases htakes : op.Takes arguments.length
  swap
  · rw [applyBuiltin_of_not_takes htakes]
    exact .error (harity htakes)
  rcases arguments with _ | ⟨a, _ | ⟨b, as⟩⟩
  · exact faults_applyBuiltin_single trivial
  · exact faults_applyBuiltin_single (hv a List.mem_cons_self)
  cases op with
  | contents | first | last => exact .ok _
  | slice =>
    obtain rfl : as = [] := List.length_eq_zero_iff.mp (by simpa [Operation.Takes] using htakes)
    exact NodeSet.faults_slice (isArgument_argumentValue a) (isArgument_argumentValue b)
  | _ => exact absurd htakes (by simp [Operation.Takes])

end Pseudo

end MarkupQuery

import Mathlib.Tactic.Lemma
import MarkupQuery.Pseudo.Registry

namespace MarkupQuery

variable {lib : Library} {home : Nat} {s t : NodeSet} {v context : Value}

lemma firsts_eq_self {α : Type} [DecidableEq α] {as : List α} (h : as.Nodup) : firsts as = as := by
  induction as with
  | nil => rfl
  | cons a as ih =>
    obtain ⟨ha, has⟩ := List.nodup_cons.mp h
    rw [firsts, ih has]
    rw [List.filter_eq_self.mpr fun b hb => by simpa using ne_of_mem_of_not_mem hb ha]

namespace NodeSet

lemma ofList_nodes (s : NodeSet) : ofList s.home s.nodes = s := by
  obtain ⟨home, nodes, nodup⟩ := s
  simp [ofList, firsts_eq_self nodup]

lemma home_of_map {α : Type} {r : Except Fault α} {f : α → NodeSet} (h : r.map f = .ok t)
    (hf : ∀ a, (f a).home = home) : t.home = home := by
  cases r with
  | error fault => cases h
  | ok a =>
    obtain rfl := Except.ok.inj h
    exact hf a

end NodeSet

namespace Value

lemma nodeSet_home (h : v.nodeSet lib home = .ok t) : t.home = home := by
  cases v with
  | text css => exact NodeSet.home_of_map h fun _ => rfl
  | int | bool | float | predicate => cases h
  | _ =>
    obtain rfl := Except.ok.inj h
    rfl

lemma query_home (h : v.query lib home context = .ok t) : t.home = home := by
  cases v with
  | text css =>
    cases context with
    | none => exact NodeSet.home_of_map h fun _ => rfl
    | _ =>
      simp only [query] at h
      split at h
      · cases h
      · exact NodeSet.home_of_map h fun _ => rfl
  | _ => exact nodeSet_home (by rwa [query] at h; nofun)

lemma nodeSet_set (hs : s.home = home) : (Value.set s).nodeSet lib home = .ok s := by
  subst hs
  exact congrArg Except.ok (NodeSet.ofList_nodes s)

lemma scope_of_nodeSet (h : v.nodeSet lib home = .ok s) :
    v.scope lib home = .ok (s.nodes.filter lib.isTag) := by
  rw [scope, h]
  rfl

lemma query_set_eq (hs : s.home = home) (css : String) :
    query lib home (.text css) (.set s) =
      (lib.selectEach css (s.nodes.filter lib.isTag)).map fun found =>
        .ofList home (NodeSet.sorted home found) := by
  have hscope : scope lib home (.set s) = .ok (s.nodes.filter lib.isTag) :=
    scope_of_nodeSet (nodeSet_set hs)
  simp only [query, hscope]

end Value

namespace NodeSet

lemma derive_home {step : Node → List Node} (h : s.derive lib step v = .ok t) : t.home = s.home :=
  home_of_map h fun _ => rfl

lemma deriveReversed_home {step : Node → List Node} (h : s.deriveReversed lib step v = .ok t) :
    t.home = s.home :=
  home_of_map h fun _ => rfl

lemma closest_home (h : s.closest lib v = .ok t) : t.home = s.home := by
  unfold closest at h
  split at h
  · obtain rfl := Except.ok.inj h
    rfl
  · exact home_of_map h fun _ => rfl

lemma filter_home (h : s.filter lib v = .ok t) : t.home = s.home := by
  unfold filter at h
  split at h
  · obtain rfl := Except.ok.inj h
    rfl
  · exact home_of_map h fun _ => rfl

lemma exclude_home (h : s.exclude lib v = .ok t) : t.home = s.home := by
  unfold exclude at h
  split at h
  · obtain rfl := Except.ok.inj h
    rfl
  · exact home_of_map h fun _ => rfl

lemma has_home (h : s.has lib v = .ok t) : t.home = s.home := by
  unfold has at h
  split at h
  · obtain rfl := Except.ok.inj h
    rfl
  split at h
  · exact home_of_map h fun _ => rfl
  · exact home_of_map h fun _ => rfl

lemma add_home (h : s.add lib v context = .ok t) : t.home = s.home := by
  unfold add at h
  split at h
  · obtain rfl := Except.ok.inj h
    rfl
  · exact home_of_map h fun _ => rfl

lemma slice_home {start stop : Value} (h : s.slice lib start stop = .ok t) : t.home = s.home := by
  simp only [slice, bind, Except.bind, pure, Except.pure] at h
  split at h
  · cases h
  split at h
  · cases h
  obtain rfl := Except.ok.inj h
  rfl

end NodeSet

namespace Pseudo

lemma Operation.select_home {op : Operation} {f : NodeSet → Value → Except Fault NodeSet}
    (hf : op.select? lib = some f) (h : f s v = .ok t) : t.home = s.home := by
  cases op <;> cases hf
  case closest => exact NodeSet.closest_home h
  case filter => exact NodeSet.filter_home h
  case exclude => exact NodeSet.exclude_home h
  case has => exact NodeSet.has_home h
  case parents => exact NodeSet.deriveReversed_home h
  case prevAll => exact NodeSet.deriveReversed_home h
  all_goals exact NodeSet.derive_home h

lemma Operation.apply_of_select {op : Operation} {f : NodeSet → Value → Except Fault NodeSet}
    (hf : op.select? lib = some f) (s : NodeSet) (values : List Value) :
    op.apply lib s values = match values with
      | [] => f s .none
      | [v] => f s v
      | _ => .error .arity := by
  rcases values with _ | ⟨v, _ | ⟨w, values⟩⟩ <;> simp only [Operation.apply, hf]

lemma Operation.exists_of_apply_select {op : Operation}
    {f : NodeSet → Value → Except Fault NodeSet} {values : List Value}
    (hf : op.select? lib = some f) (h : op.apply lib s values = .ok t) : ∃ v, f s v = .ok t := by
  rw [apply_of_select hf] at h
  split at h
  · exact ⟨_, h⟩
  · exact ⟨_, h⟩
  · cases h

lemma Operation.apply_home {op : Operation} {arguments : List Value}
    (h : op.apply lib s arguments = .ok t) : t.home = s.home := by
  unfold apply at h
  split at h
  · next f hf =>
    split at h
    · exact select_home hf h
    · exact select_home hf h
    · cases h
  · split at h
    · obtain rfl := Except.ok.inj h
      rfl
    · obtain rfl := Except.ok.inj h
      rfl
    · obtain rfl := Except.ok.inj h
      rfl
    · exact Value.query_home h
    · exact NodeSet.home_of_map h fun _ => rfl
    · exact NodeSet.slice_home h
    · exact NodeSet.slice_home h
    · exact NodeSet.slice_home h
    · exact NodeSet.add_home h
    · exact NodeSet.add_home h
    · cases h

lemma applyBuiltin_home {op : Operation} {arguments : List Value}
    (h : applyBuiltin lib op s arguments = .ok t) : t.home = s.home := by
  unfold applyBuiltin at h
  split at h
  case h_7 => cases h
  all_goals exact Operation.apply_home h

end Pseudo

end MarkupQuery

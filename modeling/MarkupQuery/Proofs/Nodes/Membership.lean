import Mathlib.Tactic.Lemma
import MarkupQuery.Nodes.Traversal
import MarkupQuery.Proofs.Trace

namespace MarkupQuery

lemma mem_firsts {α : Type} [DecidableEq α] {a : α} {as : List α} : a ∈ firsts as ↔ a ∈ as := by
  induction as with
  | nil => simp [firsts]
  | cons b as ih =>
    by_cases h : a = b
    · simp [firsts, h]
    · simp [firsts, h, ih]

section tests

variable {α β : Type} {as : List α}

lemma keep_cons {test : α → Except Fault Bool} {a : α} {b : Bool} (h : test a = .ok b) :
    keep test (a :: as) = (keep test as).map fun kept => if b then a :: kept else kept := by
  rw [keep, h]
  cases b
  · cases keep test as <;> rfl
  · rfl

lemma keep_eq_filter {test : α → Except Fault Bool} {p : α → Bool}
    (h : ∀ a ∈ as, test a = .ok (p a)) : keep test as = .ok (as.filter p) := by
  induction as with
  | nil => rfl
  | cons a as ih =>
    obtain ⟨ha, has⟩ := List.forall_mem_cons.mp h
    rw [keep_cons ha, ih has, List.filter_cons]
    rfl

lemma exists_of_keep_cons {test : α → Except Fault Bool} {a : α} {kept : List α}
    (h : keep test (a :: as) = .ok kept) :
    ∃ b rest, test a = .ok b ∧ keep test as = .ok rest ∧
      (if b then a :: rest else rest) = kept := by
  cases ha : test a with
  | error fault =>
    rw [keep, ha] at h
    cases h
  | ok b =>
    rw [keep_cons ha] at h
    obtain ⟨rest, hrest, hkept⟩ := exists_of_map h
    exact ⟨b, rest, rfl, hrest, hkept⟩

lemma exists_keep_iff {test : α → Except Fault Bool} :
    (∃ kept, keep test as = .ok kept) ↔ ∀ a ∈ as, ∃ b, test a = .ok b := by
  induction as with
  | nil => simp [keep]
  | cons a as ih =>
    rw [List.forall_mem_cons, ← ih]
    constructor
    · rintro ⟨kept, h⟩
      obtain ⟨b, rest, hb, hrest, -⟩ := exists_of_keep_cons h
      exact ⟨⟨b, hb⟩, rest, hrest⟩
    · rintro ⟨⟨b, hb⟩, rest, hrest⟩
      rw [keep_cons hb, hrest]
      exact ⟨_, rfl⟩

lemma keep_sublist {test : α → Except Fault Bool} {kept : List α} (h : keep test as = .ok kept) :
    kept.Sublist as := by
  induction as generalizing kept with
  | nil =>
    obtain rfl := Except.ok.inj h
    exact List.Sublist.refl _
  | cons a as ih =>
    obtain ⟨b, rest, -, hrest, rfl⟩ := exists_of_keep_cons h
    cases b
    · exact (ih hrest).cons a
    · exact (ih hrest).cons_cons a

lemma mem_keep {test : α → Except Fault Bool} {a : α} {kept : List α}
    (h : keep test as = .ok kept) : a ∈ kept ↔ a ∈ as ∧ test a = .ok true := by
  induction as generalizing kept with
  | nil =>
    obtain rfl := Except.ok.inj h
    simp
  | cons c as ih =>
    obtain ⟨b, rest, hb, hrest, rfl⟩ := exists_of_keep_cons h
    by_cases hac : a = c
    · subst hac
      cases b
      · simp [ih hrest, hb]
      · simp [hb]
    · cases b <;> simp [hac, ih hrest]

lemma exists_of_collect_cons {step : α → Except Fault (Option β)} {a : α} {bs : List β}
    (h : collect step (a :: as) = .ok bs) :
    ∃ found rest, step a = .ok found ∧ collect step as = .ok rest ∧ found.toList ++ rest = bs := by
  cases ha : step a with
  | error fault => simp [collect, ha] at h
  | ok found =>
    simp only [collect, ha] at h
    obtain ⟨rest, hrest, hbs⟩ := exists_of_map h
    exact ⟨found, rest, rfl, hrest, hbs⟩

lemma exists_collect_iff {step : α → Except Fault (Option β)} :
    (∃ bs, collect step as = .ok bs) ↔ ∀ a ∈ as, ∃ found, step a = .ok found := by
  induction as with
  | nil => simp [collect]
  | cons a as ih =>
    rw [List.forall_mem_cons, ← ih]
    constructor
    · rintro ⟨bs, h⟩
      obtain ⟨found, rest, hfound, hrest, -⟩ := exists_of_collect_cons h
      exact ⟨⟨found, hfound⟩, rest, hrest⟩
    · rintro ⟨⟨found, hfound⟩, rest, hrest⟩
      exact ⟨found.toList ++ rest, by simp [collect, hfound, hrest, Except.map]⟩

lemma mem_collect {step : α → Except Fault (Option β)} {bs : List β} {b : β}
    (h : collect step as = .ok bs) : b ∈ bs ↔ ∃ a ∈ as, step a = .ok (some b) := by
  induction as generalizing bs with
  | nil =>
    obtain rfl := Except.ok.inj h
    simp
  | cons a as ih =>
    obtain ⟨found, rest, hfound, hrest, rfl⟩ := exists_of_collect_cons h
    simp [ih hrest, hfound]

end tests

lemma firstKept?_mem {α : Type} {test : α → Except Fault Bool} {as : List α} {a : α}
    (h : firstKept? test as = .ok (some a)) : a ∈ as := by
  induction as with
  | nil => cases h
  | cons c as ih =>
    rw [firstKept?] at h
    split at h
    · cases h
    · obtain rfl := Option.some.inj (Except.ok.inj h)
      exact List.mem_cons_self
    · exact List.mem_cons_of_mem c (ih h)

namespace NodeSet

variable {home : Nat} {ns : List Node} {n : Node}

lemma mem_ofList : n ∈ (ofList home ns).nodes ↔ n ∈ ns := mem_firsts

lemma mem_sorted : n ∈ sorted home ns ↔ n ∈ ns := by
  simp only [sorted, List.mem_append, List.mem_mergeSort, List.mem_filter, mem_firsts,
    ← and_or_left]
  by_cases h : n.document = home <;> simp [h]

lemma mem_ofList_sorted : n ∈ (ofList home (sorted home ns)).nodes ↔ n ∈ ns :=
  mem_ofList.trans mem_sorted

section given

variable {lib : Library} {s : NodeSet} {v : Value}

lemma closest_of_given (hv : v ≠ .none) : s.closest lib v =
    (collect (fun n => firstKept? (v.admits lib s.home) (lib.inclusiveAncestors n)) s.nodes).map
      fun found => .ofList s.home (sorted s.home found) := by
  cases v
  case none => exact absurd rfl hv
  all_goals rfl

lemma filter_of_given (hv : v ≠ .none) :
    s.filter lib v = (keep (v.admits lib s.home) s.nodes).map (.ofList s.home) := by
  cases v
  case none => exact absurd rfl hv
  all_goals rfl

lemma exclude_of_given (hv : v ≠ .none) : s.exclude lib v =
    (keep (fun n => (v.admits lib s.home n).map (!·)) s.nodes).map (.ofList s.home) := by
  cases v
  case none => exact absurd rfl hv
  all_goals rfl

lemma has_of_css {css : String} (hcss : v.cssText? lib = some css) : s.has lib v =
    (keep (fun n => if lib.isTag n then (lib.select n css).map (!·.isEmpty) else .ok false)
      s.nodes).map (.ofList s.home) := by
  cases v
  case none => cases hcss
  all_goals simp [has, hcss]

lemma has_of_nodes (hv : v ≠ .none) (hcss : v.cssText? lib = none) : s.has lib v =
    (v.nodeSet lib s.home).map fun t =>
      .ofList s.home (s.nodes.filter fun n => t.nodes.any fun m => n.isAncestorOf m) := by
  cases v
  case none => exact absurd rfl hv
  all_goals simp [has, hcss]

end given

end NodeSet

namespace Library

variable {lib : Library} {css : String} {ns found : List Node} {m : Node}

lemma exists_of_selectEach_cons {n : Node} (h : lib.selectEach css (n :: ns) = .ok found) :
    ∃ below rest, lib.select n css = .ok below ∧ lib.selectEach css ns = .ok rest ∧
      below ++ rest = found := by
  cases hn : lib.select n css with
  | error fault => simp [selectEach, hn] at h
  | ok below =>
    simp only [selectEach, hn] at h
    obtain ⟨rest, hrest, hfound⟩ := exists_of_map h
    exact ⟨below, rest, rfl, hrest, hfound⟩

lemma exists_selectEach_iff :
    (∃ found, lib.selectEach css ns = .ok found) ↔
      ∀ n ∈ ns, ∃ below, lib.select n css = .ok below := by
  induction ns with
  | nil => simp [selectEach]
  | cons n ns ih =>
    rw [List.forall_mem_cons, ← ih]
    constructor
    · rintro ⟨found, h⟩
      obtain ⟨below, rest, hbelow, hrest, -⟩ := exists_of_selectEach_cons h
      exact ⟨⟨below, hbelow⟩, rest, hrest⟩
    · rintro ⟨⟨below, hbelow⟩, rest, hrest⟩
      exact ⟨below ++ rest, by simp [selectEach, hbelow, hrest, Except.map]⟩

lemma mem_selectEach (h : lib.selectEach css ns = .ok found) :
    m ∈ found ↔ ∃ n ∈ ns, ∃ below, lib.select n css = .ok below ∧ m ∈ below := by
  induction ns generalizing found with
  | nil =>
    obtain rfl := Except.ok.inj h
    simp
  | cons n ns ih =>
    obtain ⟨below, rest, hbelow, hrest, rfl⟩ := exists_of_selectEach_cons h
    simp [ih hrest, hbelow]

end Library

end MarkupQuery

import MarkupQuery.Proofs.Extraction.Reference
import MarkupQuery.Proofs.Pseudo.Surface

namespace MarkupQuery

def Fault.IsBlank : Fault → Prop
  | malformed .blank .. => True
  | _ => False

lemma Fault.OfOperation.not_isBlank {fault : Fault} (h : fault.OfOperation) : ¬ fault.IsBlank := by
  unfold IsBlank
  split
  · exact h.elim
  · exact id

lemma Fault.OfEvaluation.not_isBlank {fault : Fault} (h : fault.OfEvaluation) :
    ¬ fault.IsBlank := by
  cases fault <;> first | exact h.elim | exact id

namespace Pseudo

open Selector Text

variable {β : Type} {lib : Library} {home : Nat} {selector : String} {context : Value}
  {fault : Fault}

lemma ordinary_builtin : (Registry.builtin : Registry β).Ordinary lib := nofun

lemma resolve_not_isBlank (hs : isBlankText selector = false)
    (h : (resolve lib home (.builtin : Registry β) selector context).outcome = .error fault)
    (hcontext : context.IsContext) : ¬ fault.IsBlank := by
  have hfaults := exists_of_resolve_fault (p := (¬ ·.IsBlank)) (fun _ => id) hcontext
    (fun _ _ _ _ css _ => (Library.faults_selectorOf css).mono fun _ h => h.not_isBlank) h
  rcases hfaults with hread | hfault | hfault | ⟨rfl, -⟩
  · unfold Fault.IsBlank
    split
    · exact absurd hread (segments_not_blank hs _ _)
    · exact id
  · exact hfault
  · exact hfault.not_isBlank
  · exact id

lemma resolve_node_not_missingContext (row : Node) (place : Option (Place × String)) :
    (resolve lib home (.builtin : Registry β) selector (.node row)).outcome ≠
      .error (.missingContext place) := by
  intro h
  obtain ⟨-, hnone, -⟩ := (missingContext_iff ordinary_builtin).mp ⟨place, h⟩
  cases hnone

end Pseudo

namespace Extraction.Extractor

open Pseudo Selector Text

variable {β : Type} (x : Extractor β) (lib : Library) (home : Nat) {fault : Fault} {row : Node}
  {rows : List Node}

def resolveRows : Except Fault NodeSet :=
  (Pseudo.resolve lib home x.registry x.config.rows .none).outcome

def resolveField (row : Node) (field : String × String) : Except Fault NodeSet :=
  (Pseudo.resolve lib home x.registry field.2 (.node row)).outcome

def RowFault (row : Node) (fault : Fault) : Prop :=
  ∃ before field after, x.config.fields = before ++ field :: after ∧
    (∀ f ∈ before, ∃ s, x.resolveField lib home row f = .ok s) ∧
    x.resolveField lib home row field = .error fault

def FirstFault (rows : List Node) (fault : Fault) : Prop :=
  ∃ before row after, rows = before ++ row :: after ∧
    (∀ r ∈ before, ∀ f ∈ x.config.fields, ∃ s, x.resolveField lib home r f = .ok s) ∧
    x.RowFault lib home row fault

lemma readField_outcome (row : Node) (field : String × String) :
    (x.readField lib home row field).outcome =
      (x.resolveField lib home row field).map fun found => (field.1, trimmed (found.text lib)) := by
  rw [readField, Traced.outcome_bind, resolveField]
  cases (Pseudo.resolve lib home x.registry field.2 (.node row)).outcome <;> rfl

lemma exists_readField_iff {field : String × String} :
    (∃ p, (x.readField lib home row field).outcome = .ok p) ↔
      ∃ s, x.resolveField lib home row field = .ok s := by
  rw [readField_outcome]
  cases x.resolveField lib home row field <;> simp [Except.map]

lemma exists_readRow_iff :
    (∃ r, (x.readRow lib home row).outcome = .ok r) ↔
      ∀ f ∈ x.config.fields, ∃ s, x.resolveField lib home row f = .ok s := by
  rw [readRow, Traced.exists_outcome_each_iff]
  exact forall₂_congr fun _ _ => x.exists_readField_iff lib home

lemma readRow_eq_error_iff :
    (x.readRow lib home row).outcome = .error fault ↔ x.RowFault lib home row fault := by
  rw [readRow, Traced.outcome_each_eq_error_iff]
  simp only [exists_readField_iff]
  simp only [readField_outcome, map_eq_error_iff]
  rfl

lemma readRows_eq_error_iff :
    (Traced.each (x.readRow lib home) rows).outcome = .error fault ↔
      x.FirstFault lib home rows fault := by
  rw [Traced.outcome_each_eq_error_iff]
  simp only [exists_readRow_iff, readRow_eq_error_iff]
  rfl

lemma extract_eq_error_iff :
    (x.extract lib home).outcome = .error fault ↔
      x.resolveRows lib home = .error fault ∨
        ∃ found, x.resolveRows lib home = .ok found ∧
          x.FirstFault lib home found.nodes fault := by
  rw [extract_outcome, bind_eq_error_iff]
  simp only [map_eq_error_iff, readRows_eq_error_iff]
  rfl

lemma exists_of_firstFault (h : x.FirstFault lib home rows fault) :
    ∃ row ∈ rows, ∃ f ∈ x.config.fields, x.resolveField lib home row f = .error fault := by
  obtain ⟨_, row, _, rfl, -, _, field, _, hfields, -, hfault⟩ := h
  exact ⟨row, by simp, field, by simp [hfields], hfault⟩

lemma exists_extract_error_iff :
    (∃ fault, (x.extract lib home).outcome = .error fault) ↔
      (∃ fault, x.resolveRows lib home = .error fault) ∨
        ∃ found, x.resolveRows lib home = .ok found ∧ ∃ row ∈ found.nodes,
          ∃ f ∈ x.config.fields, ∃ fault, x.resolveField lib home row f = .error fault := by
  constructor
  · rintro ⟨fault, h⟩
    obtain hrows | ⟨found, hfound, hfirst⟩ := (x.extract_eq_error_iff lib home).mp h
    · exact .inl ⟨fault, hrows⟩
    · obtain ⟨row, hrow, f, hf, hfault⟩ := x.exists_of_firstFault lib home hfirst
      exact .inr ⟨found, hfound, row, hrow, f, hf, fault, hfault⟩
  · intro h
    cases hx : (x.extract lib home).outcome with
    | error fault => exact ⟨fault, rfl⟩
    | ok records =>
      -- Records are there only when all fields of all rows are.
      rw [extract_outcome] at hx
      obtain ⟨found, hfound, hx⟩ := exists_of_bind hx
      obtain ⟨raws, hraws, -⟩ := exists_of_map hx
      obtain ⟨fault, hrows⟩ | ⟨found', hfound', row, hrow, f, hf, fault, hfault⟩ := h
      · cases hrows.symm.trans hfound
      · obtain rfl := Except.ok.inj (hfound'.symm.trans hfound)
        have hread := Traced.exists_outcome_each_iff.mp ⟨raws, hraws⟩ row hrow
        obtain ⟨s, hs⟩ := (x.exists_readRow_iff lib home).mp hread f hf
        cases hfault.symm.trans hs

structure Provenance : Prop where
  raises : (∃ fault, (x.extract lib home).outcome = .error fault) ↔
    (∃ fault, x.resolveRows lib home = .error fault) ∨
      ∃ found, x.resolveRows lib home = .ok found ∧ ∃ row ∈ found.nodes,
        ∃ f ∈ x.config.fields, ∃ fault, x.resolveField lib home row f = .error fault
  first : ∀ fault, (x.extract lib home).outcome = .error fault ↔
    x.resolveRows lib home = .error fault ∨
      ∃ found, x.resolveRows lib home = .ok found ∧ x.FirstFault lib home found.nodes fault
  shown : ∀ fault, (x.extract lib home).outcome = .error fault → ¬ fault.IsBlank
  missing : (∃ place, (x.extract lib home).outcome = .error (.missingContext place)) ↔
    (∃ ss, segments x.config.rows = .ok ss) ∧
      (trimStart x.config.rows.toList).head? = some ':'
  fields : ∀ row field place, x.resolveField lib home row field ≠ .error (.missingContext place)

/-- With the built-in pseudo-classes extraction raises what its rows raise, or else what the
first of the fields of the rows raises; no selector is blank, and only rows miss a context. -/
theorem extract_provenance (β : Type) (config : Config) (engine : Markup.Engine) (lib : Library)
    (home : Nat) : Provenance (⟨config, .builtin, engine⟩ : Extractor β) lib home where
  raises := exists_extract_error_iff _ lib home
  first _ := extract_eq_error_iff _ lib home
  shown fault h := by
    obtain hrows | ⟨found, -, hfirst⟩ := (extract_eq_error_iff _ lib home).mp h
    · exact resolve_not_isBlank config.rows_shown hrows trivial
    · obtain ⟨row, -, f, hf, hfault⟩ := exists_of_firstFault _ lib home hfirst
      exact resolve_not_isBlank (config.fields_shown f hf) hfault trivial
  missing := by
    constructor
    · rintro ⟨place, h⟩
      obtain hrows | ⟨found, -, hfirst⟩ := (extract_eq_error_iff _ lib home).mp h
      · obtain ⟨hread, -, hhead⟩ := (missingContext_iff ordinary_builtin).mp ⟨place, hrows⟩
        exact ⟨hread, hhead⟩
      · obtain ⟨row, -, f, -, hfault⟩ := exists_of_firstFault _ lib home hfirst
        exact absurd hfault (resolve_node_not_missingContext row place)
    · rintro ⟨hread, hhead⟩
      obtain ⟨place, hrows⟩ : ∃ place,
          resolveRows (⟨config, .builtin, engine⟩ : Extractor β) lib home =
            .error (.missingContext place) :=
        (missingContext_iff ordinary_builtin).mpr ⟨hread, rfl, hhead⟩
      exact ⟨place, (extract_eq_error_iff _ lib home).mpr (.inl hrows)⟩
  fields row _ place := resolve_node_not_missingContext row place

end Extraction.Extractor

end MarkupQuery

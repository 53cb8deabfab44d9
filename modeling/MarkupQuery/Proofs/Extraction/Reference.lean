import MarkupQuery.Extraction.Extractor
import MarkupQuery.Proofs.Trace

/-! Extraction without memory: what a field shows is said by the texts of all rows. -/

namespace MarkupQuery.Extraction

open Text

abbrev Table := Nat → String → String

def Table.shownBefore (raw : Table) (name : String) (i : Nat) : Option Nat :=
  ((List.range i).filter fun j => raw j name ≠ "").max?

def Table.carried (raw : Table) (name : String) (i : Nat) : String :=
  ((raw.shownBefore name i).map fun j => raw j name).getD ""

namespace Config

variable (c : Config)

def value (raw : Table) (i : Nat) (name : String) : String :=
  if name ∈ c.repeatIfBlank.getD [] ∧ raw i name = "" then raw.carried name i else raw i name

def Kept (raw : Table) (i : Nat) : Prop :=
  ∀ name ∈ c.skipIfBlank.getD [], name ∈ c.fieldNames ∧ c.value raw i name ≠ ""

instance (raw : Table) (i : Nat) : Decidable (c.Kept raw i) :=
  inferInstanceAs (Decidable (∀ name ∈ c.skipIfBlank.getD [], _ ∧ _))

def recordAt (raw : Table) (i : Nat) : Record :=
  c.fieldNames.map fun name => (name, c.value raw i name)

def settle (memory : Memory) : List Record → List Record
  | [] => []
  | raw :: raws =>
    let (record, memory) := fill (c.repeatIfBlank.getD []) memory raw
    if (blankNames (c.skipIfBlank.getD []) record).isEmpty then record :: settle memory raws
    else settle memory raws

end Config

def Record.text (r : Record) (name : String) : String := (r.lookup name).getD ""

def shown (repeated : List String) (memory : Memory) (f : String × String) : String × String :=
  (f.1, if f.1 ∈ repeated ∧ f.2 = "" then Record.text memory f.1 else f.2)

def noted (repeated : List String) (memory : Memory) (f : String × String) : Memory :=
  if f.1 ∈ repeated ∧ f.2 ≠ "" then f :: memory else memory

def tableOf (raws : List Record) : Table := fun i name => Record.text (raws[i]?.getD []) name

variable {raw : Table} {name : String} {i : Nat} {names repeated : List String} {memory : Memory}
  {r : Record}

lemma Table.shownBefore_succ_of_blank (h : raw i name = "") :
    raw.shownBefore name (i + 1) = raw.shownBefore name i := by
  simp [shownBefore, List.range_succ, h]

lemma Table.shownBefore_succ_of_shown (h : raw i name ≠ "") :
    raw.shownBefore name (i + 1) = some i := by
  refine List.max?_eq_some_iff.mpr ⟨by simp [h], fun j hj => ?_⟩
  have hlt := List.mem_range.mp (List.mem_filter.mp hj).1
  omega

lemma Table.carried_succ : raw.carried name (i + 1) =
    if raw i name = "" then raw.carried name i else raw i name := by
  split
  · next h => rw [carried, shownBefore_succ_of_blank h, ← carried]
  · next h =>
    rw [carried, shownBefore_succ_of_shown h]
    rfl

namespace Record

lemma text_cons (key text : String) (r : Record) :
    Record.text ((key, text) :: r) name = if name = key then text else Record.text r name := by
  by_cases h : name = key
  · simp [Record.text, h]
  · have hb : (name == key) = false := beq_false_of_ne h
    simp [Record.text, List.lookup_cons, hb, h]

lemma text_map (v : String → String) :
    Record.text (names.map fun name => (name, v name)) name =
      if name ∈ names then v name else "" := by
  induction names with
  | nil => rfl
  | cons head names ih =>
    rw [List.map_cons, text_cons, ih]
    by_cases h : name = head <;> simp [h]

lemma text_eq_of_mem (hr : (r.map (·.1)).Nodup) {f : String × String} (hf : f ∈ r) :
    Record.text r f.1 = f.2 := by
  induction r with
  | nil => cases hf
  | cons g r ih =>
    obtain ⟨hg, hr⟩ := List.nodup_cons.mp hr
    rw [text_cons]
    rcases List.mem_cons.mp hf with rfl | hf
    · rw [if_pos rfl]
    · have hne : f.1 ≠ g.1 := ne_of_mem_of_not_mem (List.mem_map_of_mem hf) hg
      rw [if_neg hne, ih hr hf]

lemma text_of_notMem (h : name ∉ r.map (·.1)) : Record.text r name = "" := by
  have hnone : r.lookup name = none := List.lookup_eq_none_iff.mpr fun f hf => by
    have hne : f.1 ≠ name := ne_of_mem_of_not_mem (List.mem_map_of_mem hf) h
    simpa using hne.symm
  rw [Record.text, hnone]
  rfl

end Record

lemma fill_cons (f : String × String) (r : Record) : fill repeated memory (f :: r) =
    (shown repeated memory f :: (fill repeated (noted repeated memory f) r).1,
      (fill repeated (noted repeated memory f) r).2) := by
  obtain ⟨key, text⟩ := f
  rw [fill, shown, noted]
  by_cases hk : key ∈ repeated <;> by_cases ht : text = "" <;> simp [hk, ht, Record.text]

lemma text_noted (f : String × String) : Record.text (noted repeated memory f) name =
    if name = f.1 ∧ f.1 ∈ repeated ∧ f.2 ≠ "" then f.2 else Record.text memory name := by
  rw [noted]
  split
  · next h =>
    obtain ⟨key, text⟩ := f
    simp [Record.text_cons, h]
  · next h => rw [if_neg fun hn => h hn.2]

lemma fill_record (hr : (r.map (·.1)).Nodup) :
    (fill repeated memory r).1 = r.map (shown repeated memory) := by
  induction r generalizing memory with
  | nil => rfl
  | cons f r ih =>
    obtain ⟨hf, hr⟩ := List.nodup_cons.mp hr
    rw [fill_cons, ih hr, List.map_cons]
    refine congrArg _ (List.map_congr_left fun g hg => ?_)
    have hne : g.1 ≠ f.1 := ne_of_mem_of_not_mem (List.mem_map_of_mem hg) hf
    have hm : Record.text (noted repeated memory f) g.1 = Record.text memory g.1 := by
      rw [text_noted, if_neg fun h => hne h.1]
    rw [shown, shown, hm]

lemma fill_memory (hr : (r.map (·.1)).Nodup) :
    Record.text (fill repeated memory r).2 name =
      if name ∈ repeated ∧ Record.text r name ≠ "" then Record.text r name
      else Record.text memory name := by
  induction r generalizing memory with
  | nil => simp [fill, Record.text]
  | cons f r ih =>
    obtain ⟨hf, hr⟩ := List.nodup_cons.mp hr
    rw [fill_cons, ih hr, text_noted, Record.text_cons]
    by_cases h : name = f.1
    · simp [h, Record.text_of_notMem hf]
    · simp [h]

variable {c : Config} {raws rest : List Record}

lemma tableOf_eq (h : raws[i]? = some r) : tableOf raws i = Record.text r := by
  funext name
  rw [tableOf, h]
  rfl

def Remembers (c : Config) (raw : Table) (memory : Memory) (i : Nat) : Prop :=
  ∀ name ∈ c.repeatIfBlank.getD [], Record.text memory name = raw.carried name i

lemma remembers_nil (c : Config) (raw : Table) : Remembers c raw [] 0 := fun _ _ => rfl

lemma Remembers.fill (h : Remembers c raw memory i) (hr : (r.map (·.1)).Nodup)
    (hi : raw i = Record.text r) :
    Remembers c raw (Extraction.fill (c.repeatIfBlank.getD []) memory r).2 (i + 1) := by
  intro name hn
  rw [fill_memory hr, Table.carried_succ, hi, h name hn]
  by_cases ht : Record.text r name = ""
  · simp [ht]
  · simp [ht, hn]

lemma fill_eq_recordAt (h : Remembers c raw memory i) (hk : r.map (·.1) = c.fieldNames)
    (hi : raw i = Record.text r) :
    (fill (c.repeatIfBlank.getD []) memory r).1 = c.recordAt raw i := by
  have hr : (r.map (·.1)).Nodup := hk ▸ c.names_nodup
  rw [fill_record hr, Config.recordAt, ← hk, List.map_map]
  refine List.map_congr_left fun f hf => ?_
  have hf : raw i f.1 = f.2 := by rw [hi, Record.text_eq_of_mem hr hf]
  rw [shown, Function.comp_apply, Config.value, hf]
  split
  · next hb => rw [h f.1 hb.1]
  · rfl

lemma blankNames_isEmpty_iff :
    (blankNames (c.skipIfBlank.getD []) (c.recordAt raw i)).isEmpty ↔ c.Kept raw i := by
  rw [blankNames, List.isEmpty_iff, List.filter_eq_nil_iff, Config.Kept]
  refine forall₂_congr fun name _ => ?_
  have ht : ((c.recordAt raw i).lookup name).getD "" =
      if name ∈ c.fieldNames then c.value raw i name else "" :=
    Record.text_map fun name => c.value raw i name
  rw [ht]
  by_cases hm : name ∈ c.fieldNames <;> simp [hm]

lemma settle_eq (h : Remembers c raw memory i) (hk : ∀ r ∈ rest, r.map (·.1) = c.fieldNames)
    (ht : ∀ k r, rest[k]? = some r → raw (i + k) = Record.text r) :
    c.settle memory rest =
      ((List.range' i rest.length).filter fun j => c.Kept raw j).map (c.recordAt raw) := by
  induction rest generalizing memory i with
  | nil => rfl
  | cons r rest ih =>
    have hi : raw i = Record.text r := ht 0 r rfl
    have hkeys := hk r List.mem_cons_self
    have hnext := h.fill (hkeys ▸ c.names_nodup) hi
    have hrest := ih hnext (fun s hs => hk s (List.mem_cons_of_mem r hs)) fun k s hs => by
      rw [Nat.add_right_comm, Nat.add_assoc]
      exact ht (k + 1) s hs
    simp only [Config.settle, fill_eq_recordAt h hkeys hi, hrest, blankNames_isEmpty_iff]
    rw [List.length_cons, List.range'_succ, List.filter_cons]
    by_cases hkept : c.Kept raw i <;> simp [hkept]

namespace Extractor

variable {β : Type} (x : Extractor β) (lib : Library) (home : Nat) {records : List Record}

def Reads (row : Node) (selector text : String) : Prop :=
  ∃ found, (Pseudo.resolve lib home x.registry selector (.node row)).outcome = .ok found ∧
    trimmed (found.text lib) = text

lemma readRow_outcome {row : Node} (h : (x.readRow lib home row).outcome = .ok r) :
    r.map (·.1) = x.config.fieldNames ∧
      ∀ f ∈ x.config.fields, x.Reads lib home row f.2 (Record.text r f.1) := by
  have hread : ∀ f p, (x.readField lib home row f).outcome = .ok p →
      f.1 = p.1 ∧ x.Reads lib home row f.2 p.2 := by
    intro f p hp
    rw [readField, Traced.outcome_bind] at hp
    obtain ⟨found, hf, hp⟩ := exists_of_bind hp
    obtain rfl := Except.ok.inj hp
    exact ⟨rfl, found, hf, rfl⟩
  have hall := (Traced.outcome_each_eq_ok_iff.mp h).imp hread
  have hkeys : x.config.fieldNames = r.map (·.1) := by
    rw [Config.fieldNames, ← List.forall₂_eq_eq_eq, List.forall₂_map_left_iff,
      List.forall₂_map_right_iff]
    exact hall.imp fun f p hp => hp.1
  refine ⟨hkeys.symm, fun f hf => ?_⟩
  obtain ⟨hlen, hget⟩ := List.forall₂_iff_get.mp hall
  obtain ⟨k, hk, rfl⟩ := List.mem_iff_getElem.mp hf
  have hkr : k < r.length := hlen ▸ hk
  obtain ⟨hname, ht⟩ := hget k hk hkr
  have htext := Record.text_eq_of_mem (hkeys ▸ x.config.names_nodup) (List.getElem_mem hkr)
  rw [List.get_eq_getElem] at hname ht
  rwa [hname, List.get_eq_getElem, htext]

lemma readRows_outcome (memory : Memory) (rows : List Node) :
    (x.readRows lib home memory rows).outcome =
      (Traced.each (x.readRow lib home) rows).outcome.map (x.config.settle memory) := by
  induction rows generalizing memory with
  | nil => rfl
  | cons row rows ih =>
    rw [readRows, Traced.outcome_bind, Traced.outcome_each_cons]
    cases (x.readRow lib home row).outcome with
    | error fault => rfl
    | ok raw =>
      simp only [Except.bind]
      split
      · next hb =>
        rw [Traced.outcome_bind, ih]
        cases (Traced.each (x.readRow lib home) rows).outcome with
        | error fault => rfl
        | ok raws => simp [Except.bind, Except.map, Config.settle, hb]; rfl
      · next hb =>
        rw [Traced.outcome_bind]
        refine (ih _).trans ?_
        cases (Traced.each (x.readRow lib home) rows).outcome with
        | error fault => rfl
        | ok raws => simp [Except.map, Config.settle, hb]

lemma extract_outcome : (x.extract lib home).outcome =
    (Pseudo.resolve lib home x.registry x.config.rows .none).outcome.bind fun rows =>
      (Traced.each (x.readRow lib home) rows.nodes).outcome.map (x.config.settle []) := by
  rw [extract, Traced.outcome_bind]
  refine congrArg _ (funext fun rows => ?_)
  rw [← readRows_outcome, Traced.outcome_bind]
  refine (Traced.outcome_bind _ _).trans ?_
  cases (x.readRows lib home [] rows.nodes).outcome <;> rfl

lemma tableOf_reads {rows : List Node}
    (h : (Traced.each (x.readRow lib home) rows).outcome = .ok raws) :
    rows.length = raws.length ∧ (∀ r ∈ raws, r.map (·.1) = x.config.fieldNames) ∧
      ∀ i row, rows[i]? = some row → ∀ f ∈ x.config.fields,
        x.Reads lib home row f.2 (tableOf raws i f.1) := by
  have hall := (Traced.outcome_each_eq_ok_iff.mp h).imp fun _ _ => x.readRow_outcome lib home
  obtain ⟨hlen, hget⟩ := List.forall₂_iff_get.mp hall
  refine ⟨hlen, fun r hr => ?_, fun i row hrow f hf => ?_⟩
  · obtain ⟨k, hk, rfl⟩ := List.mem_iff_getElem.mp hr
    exact (hget k (hlen ▸ hk) hk).1
  · obtain ⟨hi, rfl⟩ := List.getElem?_eq_some_iff.mp hrow
    have hi' : i < raws.length := hlen ▸ hi
    rw [tableOf_eq (List.getElem?_eq_getElem hi')]
    exact (hget i hi hi').2 f hf

/-- Extraction makes the records that the texts of all rows call for. -/
theorem extract_eq_reference (h : (x.extract lib home).outcome = .ok records) :
    ∃ (rows : NodeSet) (raw : Table),
      (Pseudo.resolve lib home x.registry x.config.rows .none).outcome = .ok rows ∧
      (∀ i row, rows.nodes[i]? = some row → ∀ f ∈ x.config.fields,
        x.Reads lib home row f.2 (raw i f.1)) ∧
      records = ((List.range rows.nodes.length).filter fun i => x.config.Kept raw i).map
        (x.config.recordAt raw) ∧
      (x.config.fields = [] → x.config.skipIfBlank.getD [] = [] →
        records = List.replicate rows.nodes.length []) := by
  rw [extract_outcome] at h
  obtain ⟨rows, hrows, h⟩ := exists_of_bind h
  obtain ⟨raws, hraws, rfl⟩ := exists_of_map h
  obtain ⟨hlen, hkeys, hreads⟩ := x.tableOf_reads lib home hraws
  have hsettle := settle_eq (remembers_nil x.config (tableOf raws)) hkeys fun k r hr => by
    rw [Nat.zero_add, tableOf_eq hr]
  rw [← List.range_eq_range', ← hlen] at hsettle
  refine ⟨rows, tableOf raws, hrows, hreads, hsettle, fun hf hs => ?_⟩
  have hkept (i : Nat) : x.config.Kept (tableOf raws) i := by simp [Config.Kept, hs]
  have hempty : x.config.recordAt (tableOf raws) = fun _ => [] :=
    funext fun i => by simp [Config.recordAt, Config.fieldNames, hf]
  rw [hsettle, hempty]
  simp [hkept, List.map_const']

def pairs : Extractor Unit where
  config :=
    { rows := "p"
      fields := [("name", "b"), ("value", "i:first")]
      skipIfBlank := some ["value"]
      repeatIfBlank := some ["name"]
      rows_shown := by decide +kernel
      fields_shown := by decide +kernel
      names_nodup := by decide }
  registry := .builtin
  engine := .exact

theorem extract_pairs :
    let lib : Library := ⟨[⟨.html, [
      .element "p" [] [.element "b" [] [.text "m"], .element "i" [] [.text "1"]],
      .element "p" [] [.element "b" [] [.text "n"]],
      .element "p" [] [.element "i" [] [.text " 2 "]]]⟩]⟩
    let records : List Record := [[("name", "m"), ("value", "1")], [("name", "n"), ("value", "2")]]
    (pairs.extract lib 0).outcome = .ok records ∧
    ∃ (rows : NodeSet) (raw : Table),
      (Pseudo.resolve lib 0 pairs.registry "p" .none).outcome = .ok rows ∧
      (∀ i row, rows.nodes[i]? = some row → ∀ f ∈ pairs.config.fields,
        pairs.Reads lib 0 row f.2 (raw i f.1)) ∧
      records = ((List.range rows.nodes.length).filter fun i => pairs.config.Kept raw i).map
        (pairs.config.recordAt raw) := by
  intro lib records
  have h : (pairs.extract lib 0).outcome = .ok records := by decide +kernel
  obtain ⟨rows, raw, hrows, hraw, hrecords, -⟩ := pairs.extract_eq_reference lib 0 h
  exact ⟨h, rows, raw, hrows, hraw, hrecords⟩

end Extractor

end MarkupQuery.Extraction

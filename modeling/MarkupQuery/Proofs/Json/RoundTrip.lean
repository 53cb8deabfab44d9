import Mathlib.Data.List.Basic
import Mathlib.Tactic.Lemma
import MarkupQuery.Json.Reader
import MarkupQuery.Json.Writer
import MarkupQuery.Proofs.Json.Members

namespace MarkupQuery.Json

open Text

variable {here start depth n : Nat} {c d : Char} {cs rest : List Char} {v : Json} {vs : List Json}
  {ms : List (String × Json)} {frames : List Frame}

lemma readText_backslash (h : readEscape start here cs = .ok (c, n)) :
    readText start here ('\\' :: cs) =
      (readText start (here + 1 + n) (cs.drop n)).map fun p => (c :: p.1, p.2) := by
  rw [readText]
  simp only [Char.reduceBEq, Bool.false_eq_true, ↓reduceIte, h]
  cases readText start (here + 1 + n) (cs.drop n) <;> rfl

lemma readEscape_short (h : shortEscape? d = some c) :
    readEscape start here (d :: cs) = .ok (c, 1) := by
  unfold readEscape
  split
  · next hnil => cases hnil
  · next hu =>
    cases hu
    cases h
  · next hcons =>
    cases hcons
    simp only [h]

lemma code?_hexDigits (hn : n ≤ 0x1F) (hcs : cs ≠ []) : code? (hexDigits 4 n ++ cs) = some n := by
  obtain ⟨e, cs, rfl⟩ := List.exists_cons_of_ne_nil hcs
  have hdigits : ∀ n < 32, fourDigits? (hexDigit (n / 16 / 16 / 16 % 16))
      (hexDigit (n / 16 / 16 % 16)) (hexDigit (n / 16 % 16)) (hexDigit (n % 16)) = some n := by
    decide
  exact hdigits n (by omega)

lemma readEscape_control (hc : c.toNat ≤ 0x1F) (hcs : cs ≠ []) :
    readEscape start here ('u' :: hexDigits 4 c.toNat ++ cs) = .ok (c, 5) := by
  have hhigh : isHighHalf c.toNat = false := by simp [isHighHalf]; omega
  have hlow : isLowHalf c.toNat = false := by simp [isLowHalf]; omega
  rw [List.cons_append, readEscape, code?_hexDigits hc hcs]
  simp [hhigh, charOf, hlow]

lemma escapeChar_cases (c : Char) :
    (∃ d, shortEscape? d = some c ∧ escapeChar c = ['\\', d]) ∨
      (c.toNat ≤ 0x1F ∧ escapeChar c = '\\' :: 'u' :: hexDigits 4 c.toNat) ∨
      (c ≠ '"' ∧ c ≠ '\\' ∧ 0x1F < c.toNat ∧ escapeChar c = [c]) := by
  have hshort (d : Char) (hd : shortEscape? d = some c) : ∃ e, shortEscape? e = some c ∧
      ['\\', d] = ['\\', e] := ⟨d, hd, rfl⟩
  rw [escapeChar]
  split
  · next h => exact .inl (hshort c (by simp_all [shortEscape?]))
  split
  · next h => exact .inl (hshort 'n' (by simp_all [shortEscape?]))
  split
  · next h => exact .inl (hshort 'r' (by simp_all [shortEscape?]))
  split
  · next h => exact .inl (hshort 't' (by simp_all [shortEscape?]))
  split
  · next h => exact .inl (hshort 'f' (by simp_all [shortEscape?]))
  split
  · next h => exact .inl (hshort 'b' (by simp_all [shortEscape?]))
  split
  · next h => exact .inr (.inl ⟨h, rfl⟩)
  · next hquote _ _ _ _ _ hcontrol =>
    obtain ⟨h, h'⟩ : ¬ c = '"' ∧ ¬ c = '\\' := by simpa using hquote
    exact .inr (.inr ⟨h, h', by simpa using hcontrol, rfl⟩)

lemma readText_escapeChar (c : Char) (hcs : cs ≠ []) :
    readText start here (escapeChar c ++ cs) =
      (readText start (here + (escapeChar c).length) cs).map fun p => (c :: p.1, p.2) := by
  rcases escapeChar_cases c with ⟨d, hd, he⟩ | ⟨hc, he⟩ | ⟨hquote, hslash, hc, he⟩
  · rw [he]
    exact readText_backslash (readEscape_short hd)
  · rw [he]
    exact readText_backslash (readEscape_control hc hcs)
  · rw [he, List.singleton_append, readText]
    simp only [beq_iff_eq, hquote, hslash, ↓reduceIte, Nat.not_le.mpr hc]
    cases readText start (here + 1) cs <;> rfl

lemma readText_flatMap (cs rest : List Char) :
    readText start here (cs.flatMap escapeChar ++ '"' :: rest) =
      .ok (cs, here + (cs.flatMap escapeChar).length) := by
  induction cs generalizing here with
  | nil => simp [readText]
  | cons c cs ih =>
    rw [List.flatMap_cons, List.append_assoc, readText_escapeChar c (by simp), ih]
    simp [Except.map, Nat.add_assoc]

lemma tokens_cons_of_not_space {t : Token} (hc : isSpace c = false)
    (ht : readToken here c cs = (t, n)) (hlast : t.isLast = false) :
    tokens here (c :: cs) = (here, t) :: tokens (here + 1 + (n - 1)) (cs.drop (n - 1)) := by
  rw [tokens]
  simp [hc, ht, hlast]

lemma tokens_append {t : Token} (hc : isSpace c = false)
    (ht : readToken here c (cs ++ rest) = (t, cs.length + 1)) (hlast : t.isLast = false) :
    tokens here (c :: cs ++ rest) = (here, t) :: tokens (here + 1 + cs.length) rest := by
  rw [List.cons_append, tokens_cons_of_not_space hc ht hlast, Nat.add_sub_cancel, List.drop_left]

lemma tokens_single {t : Token} (hc : isSpace c = false) (ht : readToken here c cs = (t, 1))
    (hlast : t.isLast = false) : tokens here (c :: cs) = (here, t) :: tokens (here + 1) cs :=
  tokens_cons_of_not_space hc ht hlast

lemma tokens_space (hc : isSpace c = true) : tokens here (c :: cs) = tokens (here + 1) cs := by
  rw [tokens]
  simp [hc]

lemma tokens_newLine (depth here : Nat) (rest : List Char) :
    tokens here (newLine depth ++ rest) = tokens (here + 1 + indentWidth * depth) rest := by
  have hspaces (k here : Nat) : tokens here (List.replicate k ' ' ++ rest) =
      tokens (here + k) rest := by
    induction k generalizing here with
    | zero => rfl
    | succ k ih =>
      rw [List.replicate_succ, List.cons_append, tokens_space rfl, ih, Nat.add_right_comm,
        Nat.add_assoc]
  exact (tokens_space rfl).trans (hspaces _ _)

lemma tokens_writeText (s : String) (here : Nat) (rest : List Char) : ∃ next,
    tokens here (writeText s ++ rest) = (here, .scalar (.text s)) :: tokens next rest := by
  let body := s.toList.flatMap escapeChar
  have htoken : readToken here '"' (body ++ ['"'] ++ rest) =
      (.scalar (.text s), (body ++ ['"']).length + 1) := by
    rw [readToken]
    simp only [List.append_assoc, List.singleton_append, readText_flatMap, body]
    simp
    omega
  exact ⟨_, tokens_append rfl htoken rfl⟩

structure Spot where
  expected : Expected
  frames : List Frame
  left : List Char

def Leads (a b : Spot) : Prop :=
  ∀ here, ∃ next, assemble a.expected a.frames (tokens here a.left) =
    assemble b.expected b.frames (tokens next b.left)

lemma Leads.trans {a b c : Spot} (hab : Leads a b) (hbc : Leads b c) : Leads a c := by
  intro here
  obtain ⟨next, hnext⟩ := hab here
  obtain ⟨last, hlast⟩ := hbc next
  exact ⟨last, hnext.trans hlast⟩

instance : Trans Leads Leads Leads := ⟨Leads.trans⟩

variable {e e' : Expected} {fs fs' : List Frame} {t : Token}

lemma leads_of_token (ht : ∀ here, ∃ next, tokens here cs = (here, t) :: tokens next rest)
    (hassemble : ∀ here ts, assemble e fs ((here, t) :: ts) = assemble e' fs' ts) :
    Leads ⟨e, fs, cs⟩ ⟨e', fs', rest⟩ := by
  intro here
  obtain ⟨next, hnext⟩ := ht here
  exact ⟨next, by rw [hnext, hassemble]⟩

lemma leads_of_single (hc : isSpace c = false) (ht : ∀ here, readToken here c cs = (t, 1))
    (hlast : t.isLast = false)
    (hassemble : ∀ here ts, assemble e fs ((here, t) :: ts) = assemble e' fs' ts) :
    Leads ⟨e, fs, c :: cs⟩ ⟨e', fs', cs⟩ :=
  leads_of_token (fun here => ⟨_, tokens_single hc (ht here) hlast⟩) hassemble

lemma leads_newLine (depth : Nat) (cs : List Char) :
    Leads ⟨e, fs, newLine depth ++ cs⟩ ⟨e, fs, cs⟩ :=
  fun here => ⟨_, by rw [tokens_newLine]⟩

lemma leads_writeText (s : String) (cs : List Char)
    (hassemble : ∀ here ts, assemble e fs ((here, .scalar (.text s)) :: ts) = assemble e' fs' ts) :
    Leads ⟨e, fs, writeText s ++ cs⟩ ⟨e', fs', cs⟩ :=
  leads_of_token (fun here => tokens_writeText s here cs) hassemble

def Closes (cs : List Char) : Prop := ∀ c ∈ cs.head?, c = ',' ∨ c = '\n'

lemma closes_newLine : Closes (newLine depth ++ rest) := by
  intro c hc
  exact .inr (Option.some.inj hc).symm

lemma closes_writeItems (h : Closes rest) : Closes (writeItems depth vs ++ rest) := by
  cases vs with
  | nil => exact h
  | cons v vs =>
    intro c hc
    exact .inl (Option.some.inj hc).symm

lemma closes_writeMembers (h : Closes rest) : Closes (writeMembers depth ms ++ rest) := by
  cases ms with
  | nil => exact h
  | cons m ms =>
    intro c hc
    exact .inl (Option.some.inj hc).symm

structure Legible (v : Json) : Prop where
  tokens_write (depth here : Nat) (rest : List Char) : Closes rest → ∃ next,
    tokens here (write depth v ++ rest) = (here, .scalar v) :: tokens next rest
  unbroken (depth : Nat) : '\r' ∉ write depth v

inductive Kept : Json → Prop
  | scalar {v : Json} (hv : Legible v) : Kept v
  | list {vs : List Json} (hvs : ∀ v ∈ vs, Kept v) : Kept (.list vs)
  | object {ms : List (String × Json)} (hkeys : (ms.map (·.1)).Nodup)
    (hms : ∀ m ∈ ms, Kept m.2) : Kept (.object ms)

def Reads (v : Json) : Prop :=
  ∀ depth rest orEnd fs, Closes rest →
    Leads ⟨.value orEnd, fs, write depth v ++ rest⟩ ⟨.follow v, fs, rest⟩

lemma leads_writeItems (hvs : ∀ w ∈ vs, Reads w) (items : List Json) :
    Leads ⟨.follow v, .list items :: fs,
        writeItems (depth + 1) vs ++ (newLine depth ++ ']' :: rest)⟩
      ⟨.follow (.list (items.reverse ++ v :: vs)), fs, rest⟩ := by
  induction vs generalizing v items with
  | nil =>
    refine (leads_newLine depth (']' :: rest)).trans (leads_of_single rfl (fun _ => rfl) rfl ?_)
    intro here ts
    rw [assemble, List.reverse_cons]
  | cons w vs ih =>
    obtain ⟨hw, hvs⟩ := List.forall_mem_cons.mp hvs
    calc
      Leads _ ⟨.value false, .list (v :: items) :: fs, newLine (depth + 1) ++
          (write (depth + 1) w ++
            (writeItems (depth + 1) vs ++ (newLine depth ++ ']' :: rest)))⟩ := by
        simp only [writeItems, List.cons_append, List.append_assoc]
        exact leads_of_single rfl (fun _ => rfl) rfl fun _ _ => rfl
      Leads _ _ := leads_newLine _ _
      Leads _ _ := hw _ _ _ _ (closes_writeItems closes_newLine)
      Leads _ ⟨.follow (.list (items.reverse ++ v :: w :: vs)), fs, rest⟩ := by
        simpa using ih hvs (v :: items)

lemma leads_key {done : List (String × Json)} {orEnd : Bool} (key : String) (cs : List Char) :
    Leads ⟨.key done orEnd, fs, newLine depth ++ (writeText key ++ (':' :: ' ' :: cs))⟩
      ⟨.value false, .member done key :: fs, cs⟩ :=
  calc
    Leads _ _ := leads_newLine _ _
    Leads _ ⟨.colon done key, fs, ':' :: ' ' :: cs⟩ := leads_writeText key _ fun _ _ => rfl
    Leads _ ⟨.value false, .member done key :: fs, ' ' :: cs⟩ :=
      leads_of_single rfl (fun _ => rfl) rfl fun _ _ => rfl
    Leads _ _ := fun _ => ⟨_, by rw [tokens_space rfl]⟩

lemma leads_writeMembers {key : String} {done : List (String × Json)} (hms : ∀ m ∈ ms, Reads m.2)
    (hkeys : ((done ++ (key, v) :: ms).map (·.1)).Nodup) :
    Leads ⟨.follow v, .member done key :: fs,
        writeMembers (depth + 1) ms ++ (newLine depth ++ '\x7d' :: rest)⟩
      ⟨.follow (.object (done ++ (key, v) :: ms)), fs, rest⟩ := by
  -- A member is added to those before it when its value is complete; no key stands among them yet.
  induction ms generalizing key v done with
  | nil =>
    refine (leads_newLine depth ('\x7d' :: rest)).trans (leads_of_single rfl (fun _ => rfl) rfl ?_)
    intro here ts
    rw [assemble, assign_of_nodup_append hkeys]
  | cons m ms ih =>
    obtain ⟨k, w⟩ := m
    obtain ⟨hw, hms⟩ := List.forall_mem_cons.mp hms
    calc
      Leads _ ⟨.key (done ++ [(key, v)]) false, fs, newLine (depth + 1) ++ (writeText k ++
          (':' :: ' ' :: (write (depth + 1) w ++
            (writeMembers (depth + 1) ms ++ (newLine depth ++ '\x7d' :: rest)))))⟩ := by
        simp only [writeMembers, List.cons_append, List.append_assoc, List.nil_append]
        refine leads_of_single rfl (fun _ => rfl) rfl fun here ts => ?_
        rw [assemble, assign_of_nodup_append hkeys]
      Leads _ _ := leads_key k _
      Leads _ _ := hw _ _ _ _ (closes_writeMembers closes_newLine)
      Leads _ ⟨.follow (.object (done ++ (key, v) :: (k, w) :: ms)), fs, rest⟩ := by
        have hnext : ((done ++ [(key, v)] ++ (k, w) :: ms).map (·.1)).Nodup := by
          simpa using hkeys
        simpa using ih hms hnext

lemma reads_list (hvs : ∀ v ∈ vs, Reads v) : Reads (.list vs) := by
  intro depth rest orEnd fs _
  cases vs with
  | nil =>
    calc
      Leads _ ⟨.value true, .list [] :: fs, ']' :: rest⟩ :=
        leads_of_single rfl (fun _ => rfl) rfl fun _ _ => rfl
      Leads _ ⟨.follow (.list []), fs, rest⟩ :=
        leads_of_single rfl (fun _ => rfl) rfl fun _ _ => rfl
  | cons v vs =>
    obtain ⟨hv, hvs⟩ := List.forall_mem_cons.mp hvs
    calc
      Leads _ ⟨.value true, .list [] :: fs, newLine (depth + 1) ++ (write (depth + 1) v ++
          (writeItems (depth + 1) vs ++ (newLine depth ++ ']' :: rest)))⟩ := by
        simp only [write, List.cons_append, List.append_assoc, List.nil_append]
        exact leads_of_single rfl (fun _ => rfl) rfl fun _ _ => rfl
      Leads _ _ := leads_newLine _ _
      Leads _ _ := hv _ _ _ _ (closes_writeItems closes_newLine)
      Leads _ _ := leads_writeItems hvs []

lemma reads_object (hkeys : (ms.map (·.1)).Nodup) (hms : ∀ m ∈ ms, Reads m.2) :
    Reads (.object ms) := by
  intro depth rest orEnd fs _
  cases ms with
  | nil =>
    calc
      Leads _ ⟨.key [] true, fs, '\x7d' :: rest⟩ :=
        leads_of_single rfl (fun _ => rfl) rfl fun _ _ => rfl
      Leads _ ⟨.follow (.object []), fs, rest⟩ :=
        leads_of_single rfl (fun _ => rfl) rfl fun _ _ => rfl
  | cons m ms =>
    obtain ⟨k, v⟩ := m
    obtain ⟨hv, hms⟩ := List.forall_mem_cons.mp hms
    calc
      Leads _ ⟨.key [] true, fs, newLine (depth + 1) ++ (writeText k ++ (':' :: ' ' ::
          (write (depth + 1) v ++
            (writeMembers (depth + 1) ms ++ (newLine depth ++ '\x7d' :: rest)))))⟩ := by
        simp only [write, List.cons_append, List.append_assoc, List.nil_append]
        exact leads_of_single rfl (fun _ => rfl) rfl fun _ _ => rfl
      Leads _ _ := leads_key k _
      Leads _ _ := hv _ _ _ _ (closes_writeMembers closes_newLine)
      Leads _ _ := leads_writeMembers hms hkeys

lemma Kept.reads (hv : Kept v) : Reads v := by
  induction hv with
  | scalar hv =>
    intro depth rest orEnd fs hrest
    exact leads_of_token (fun here => hv.tokens_write depth here rest hrest) fun _ _ => rfl
  | list _ ih => exact reads_list ih
  | object hkeys _ ih => exact reads_object hkeys ih

lemma exists_of_mem_hexDigits {w : Nat} (h : c ∈ hexDigits w n) : ∃ k < 16, c = hexDigit k := by
  induction w generalizing n with
  | zero => cases h
  | succ w ih =>
    rcases List.mem_append.mp h with h | h
    · exact ih h
    · exact ⟨n % 16, Nat.mod_lt n (by decide), List.mem_singleton.mp h⟩

lemma notMem_escapeChar : '\r' ∉ escapeChar c := by
  intro hr
  rcases escapeChar_cases c with ⟨d, hd, he⟩ | ⟨hc, he⟩ | ⟨hquote, hslash, hc, he⟩
  · rw [he] at hr
    obtain rfl : '\r' = d := by simpa using hr
    cases hd
  · rw [he] at hr
    obtain ⟨k, hk, hd⟩ := exists_of_mem_hexDigits (by simpa using hr)
    have hdigits : ∀ k < 16, '\r' ≠ hexDigit k := by decide
    exact hdigits k hk hd
  · rw [he] at hr
    obtain rfl := List.mem_singleton.mp hr
    exact absurd hc (by decide)

lemma notMem_writeText (s : String) : '\r' ∉ writeText s := by
  simp [writeText, notMem_escapeChar]

lemma notMem_newLine : '\r' ∉ newLine depth := by
  simp [newLine]

lemma legible_text (s : String) : Legible (.text s) where
  tokens_write _ here rest _ := tokens_writeText s here rest
  unbroken _ := notMem_writeText s

lemma legible_bool (b : Bool) : Legible (.bool b) where
  tokens_write depth here rest _ := by
    cases b with
    | true =>
      have hword : write depth (.bool true) = 't' :: ['r', 'u', 'e'] := by simp [write]
      exact ⟨_, hword ▸ tokens_append rfl rfl rfl⟩
    | false =>
      have hword : write depth (.bool false) = 'f' :: ['a', 'l', 's', 'e'] := by simp [write]
      exact ⟨_, hword ▸ tokens_append rfl rfl rfl⟩
  unbroken depth := by cases b <;> simp [write]

lemma notMem_writeItems (hvs : ∀ v ∈ vs, '\r' ∉ write depth v) : '\r' ∉ writeItems depth vs := by
  induction vs with
  | nil => simp [writeItems]
  | cons v vs ih =>
    obtain ⟨hv, hvs⟩ := List.forall_mem_cons.mp hvs
    simp [writeItems, notMem_newLine, hv, ih hvs]

lemma notMem_writeMembers (hms : ∀ m ∈ ms, '\r' ∉ write depth m.2) :
    '\r' ∉ writeMembers depth ms := by
  induction ms with
  | nil => simp [writeMembers]
  | cons m ms ih =>
    obtain ⟨hm, hms⟩ := List.forall_mem_cons.mp hms
    simp [writeMembers, notMem_newLine, notMem_writeText, hm, ih hms]

lemma Kept.unbroken (hv : Kept v) (depth : Nat) : '\r' ∉ write depth v := by
  induction hv generalizing depth with
  | scalar hv => exact hv.unbroken depth
  | @list vs _ ih =>
    cases vs with
    | nil => simp [write]
    | cons v vs =>
      obtain ⟨hv, hvs⟩ := List.forall_mem_cons.mp ih
      simp [write, notMem_newLine, hv, notMem_writeItems fun v hm => hvs v hm (depth + 1)]
  | @object ms _ _ ih =>
    cases ms with
    | nil => simp [write]
    | cons m ms =>
      obtain ⟨hm, hms⟩ := List.forall_mem_cons.mp ih
      simp [write, notMem_newLine, notMem_writeText, hm,
        notMem_writeMembers fun m hmem => hms m hmem (depth + 1)]

theorem read_render (hv : Kept (.object ms)) : read (render (.object ms)) = .ok (.object ms) := by
  have hmark : (write 0 (.object ms)).head? ≠ some byteOrderMark := by
    cases ms <;> simp [write] <;> decide
  obtain ⟨next, hnext⟩ := hv.reads 0 [] false [] nofun 0
  have hend : assemble (.follow (.object ms)) [] (tokens next []) = .ok (.object ms) := by
    rw [tokens, assemble]
  have hchars : ofChars? (write 0 (.object ms)) = .ok (.object ms) := by
    rw [ofChars?, if_neg (by simpa using hmark), ← hend, ← hnext, List.append_nil]
  rw [read, render, String.toList_ofList, hchars]

end MarkupQuery.Json

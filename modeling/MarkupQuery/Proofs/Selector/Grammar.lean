import MarkupQuery.Proofs.Selector.Call

/-! The grammar of selectors: which lexemes may stand before which texts, and that reading a
selector finds exactly its sequence of lexemes. -/

namespace MarkupQuery.Selector

open Text

inductive QuotedRest (q : Char) : List Char → Prop
  | close : QuotedRest q [q]
  | escape (c : Char) {cs : List Char} : QuotedRest q cs → QuotedRest q ('\\' :: c :: cs)
  | char {c : Char} {cs : List Char} :
      c ≠ '\\' → c ≠ q → QuotedRest q cs → QuotedRest q (c :: cs)

inductive BlockRest : List Char → Prop
  | close : BlockRest [']']
  | escape (c : Char) {cs : List Char} : BlockRest cs → BlockRest ('\\' :: c :: cs)
  | quoted {q : Char} {inner cs : List Char} :
      isQuote q = true → QuotedRest q inner → BlockRest cs → BlockRest (q :: (inner ++ cs))
  | char {c : Char} {cs : List Char} :
      c ≠ '\\' → isQuote c = false → c ≠ ']' → BlockRest cs → BlockRest (c :: cs)

inductive Item : Lexeme → List Char → Prop
  | escape (c : Char) (rest : List Char) : Item ⟨['\\', c], none⟩ rest
  | ending : Item ⟨['\\'], none⟩ []
  | quoted {q : Char} {body : List Char} (rest : List Char) :
      isQuote q = true → QuotedRest q body → Item ⟨q :: body, none⟩ rest
  | block {body : List Char} (rest : List Char) : BlockRest body → Item ⟨'[' :: body, none⟩ rest
  | bareCall {name rest : List Char} :
      IsName name → (∀ c ∈ rest.head?, isNameChar c = false ∧ c ≠ '(') →
        Item ⟨':' :: name, some ⟨String.ofList name, []⟩⟩ rest
  | call {name : List Char} {parts : List (List Char)} (rest : List Char) :
      IsName name → parts ≠ [] → (∀ part ∈ parts, IsPart part) →
        Item ⟨':' :: (name ++ '(' :: ([','].intercalate parts ++ [')'])),
          some ⟨String.ofList name, argumentsOf parts⟩⟩ rest
  | char {c : Char} (rest : List Char) :
      c ≠ '\\' → isQuote c = false → c ≠ '[' → c ≠ ':' → Item ⟨[c], none⟩ rest

inductive Split : List Char → List Lexeme → Prop
  | nil : Split [] []
  | cons {l : Lexeme} {rest : List Char} {ls : List Lexeme} :
      Item l rest → Split rest ls → Split (l.text ++ rest) (l :: ls)

variable {cs rest : List Char} {q c : Char} {n m position : Nat}

lemma quote_ne_backslash (hq : isQuote q = true) : q ≠ '\\' := by
  rintro rfl
  exact absurd hq (by decide)

lemma not_isBlank_of_isQuote (hq : isQuote q = true) : isBlank q = false := by
  simp only [isQuote, Bool.or_eq_true, beq_iff_eq] at hq
  rcases hq with rfl | rfl <;> decide

lemma ne_backslash (hlast : c = '\\' → cs = [] → False)
    (hpair : ∀ (d : Char) (ds : List Char), c = '\\' → cs = d :: ds → False) : c ≠ '\\' := by
  rintro rfl
  cases cs with
  | nil => exact hlast rfl rfl
  | cons d ds => exact hpair d ds rfl rfl

lemma quotedSpan_append (hq : isQuote q = true) {body : List Char} (h : QuotedRest q body)
    (rest : List Char) : quotedSpan q (body ++ rest) = some body.length := by
  induction h with
  | close =>
    have hne := quote_ne_backslash hq
    simp [quotedSpan, hne]
  | escape c _ ih => simp [quotedSpan, ih]
  | char hc hcq _ ih => simp [quotedSpan, hc, hcq, ih]

lemma exists_of_quotedSpan (h : quotedSpan q cs = some n) :
    ∃ body rest, cs = body ++ rest ∧ body.length = n ∧ QuotedRest q body := by
  fun_induction quotedSpan q cs generalizing n with
  | case1 => simp at h
  | case2 => simp at h
  | case3 c cs ih =>
    obtain ⟨m, hm, rfl⟩ := Option.map_eq_some_iff.mp h
    obtain ⟨body, rest, rfl, rfl, hr⟩ := ih hm
    exact ⟨'\\' :: c :: body, rest, rfl, by simp, .escape c hr⟩
  | case4 c cs _ _ hc =>
    obtain rfl := beq_iff_eq.mp hc
    exact ⟨[c], cs, rfl, by simpa using h, .close⟩
  | case5 c cs hlast hpair hc ih =>
    obtain ⟨m, hm, rfl⟩ := Option.map_eq_some_iff.mp h
    obtain ⟨body, rest, rfl, rfl, hr⟩ := ih hm
    have hne : c ≠ '\\' := ne_backslash hlast hpair
    exact ⟨c :: body, rest, rfl, by simp, .char hne (by simpa using hc) hr⟩

def BlockFrom (quote : Option (Char × Nat)) (cs : List Char) : Prop :=
  match quote with
  | none => BlockRest cs
  | some (q, _) => ∃ inner body, cs = inner ++ body ∧ QuotedRest q inner ∧ BlockRest body

lemma blockSpan_quoted (hq : isQuote q = true) {inner : List Char} (h : QuotedRest q inner)
    (offset n : Nat) (rest : List Char) :
    blockSpan (some (q, offset)) n (inner ++ rest) = blockSpan none (n + inner.length) rest := by
  induction h generalizing n with
  | close =>
    have hne := quote_ne_backslash hq
    simp [blockSpan, hne]
  | escape c _ ih =>
    simp [blockSpan, ih]
    congr 1
    omega
  | char hc hcq _ ih =>
    simp [blockSpan, hc, hcq, ih]
    congr 1
    omega

lemma blockSpan_append {body : List Char} (h : BlockRest body) (n : Nat) (rest : List Char) :
    blockSpan none n (body ++ rest) = .closed (n + body.length) := by
  induction h generalizing n with
  | close => simp [blockSpan]
  | escape c _ ih =>
    simp [blockSpan, ih]
    omega
  | @quoted q inner cs hq hi _ ih =>
    have hne := quote_ne_backslash hq
    have hb : q ≠ ']' := by
      rintro rfl
      exact absurd hq (by decide)
    have hspan := blockSpan_quoted hq hi n (n + 1) (cs ++ rest)
    simp [blockSpan, hne, hb, hq, hspan, ih]
    omega
  | char hc hq hcb _ ih =>
    simp [blockSpan, hc, hq, hcb, ih]
    omega

lemma exists_of_blockSpan {quote : Option (Char × Nat)} (h : blockSpan quote n cs = .closed m) :
    ∃ body rest, cs = body ++ rest ∧ m = n + body.length ∧ BlockFrom quote body := by
  fun_induction blockSpan quote n cs with
  | case1 => simp at h
  | case2 => simp at h
  | case3 => simp at h
  | case4 => simp at h
  | case5 quote n c cs ih =>
    obtain ⟨body, rest, rfl, rfl, hb⟩ := ih h
    refine ⟨'\\' :: c :: body, rest, rfl, by simp; omega, ?_⟩
    cases quote with
    | none => exact .escape c hb
    | some p =>
      obtain ⟨inner, body, rfl, hi, hb⟩ := hb
      exact ⟨'\\' :: c :: inner, body, rfl, .escape c hi, hb⟩
  | case6 n c cs hlast hpair q offset ih =>
    obtain ⟨body, rest, rfl, rfl, hb⟩ := ih h
    refine ⟨c :: body, rest, rfl, by simp; omega, ?_⟩
    split at hb
    · next hc =>
      obtain rfl := beq_iff_eq.mp hc
      exact ⟨[c], body, rfl, .close, hb⟩
    · next hc =>
      obtain ⟨inner, body, rfl, hi, hb⟩ := hb
      have hne : c ≠ '\\' := ne_backslash hlast hpair
      exact ⟨c :: inner, body, rfl, .char hne (by simpa using hc) hi, hb⟩
  | case7 n c cs _ _ hc =>
    obtain rfl := beq_iff_eq.mp hc
    exact ⟨[']'], cs, rfl, by simpa using h.symm, .close⟩
  | case8 n c cs hlast hpair hc ih =>
    obtain ⟨body, rest, rfl, rfl, hb⟩ := ih h
    refine ⟨c :: body, rest, rfl, by simp; omega, ?_⟩
    split at hb
    · next hq =>
      obtain ⟨inner, body, rfl, hi, hb⟩ := hb
      exact .quoted hq hi hb
    · next hq =>
      have hne : c ≠ '\\' := ne_backslash hlast hpair
      exact .char hne (by simpa using hq) (by simpa using hc) hb

lemma exists_of_readCall {call : Call} (h : readCall position cs = .ok (call, n)) :
    ∃ text rest, cs = text ++ rest ∧ text.length = n ∧ Item ⟨':' :: text, some call⟩ rest := by
  cases afterColon cs with
  | nameless hn => simp [readCall_nameless position hn] at h
  | unclosed hn hi => simp [readCall_open position hn hi] at h
  | @bare name rest hn hr =>
    rw [readCall_bare position hn hr] at h
    obtain ⟨rfl, rfl⟩ := Prod.mk.inj (Except.ok.inj h)
    exact ⟨name, rest, rfl, rfl, .bareCall hn hr⟩
  | @applied name inside rest hn hi =>
    rw [readCall_applied position rest hn hi] at h
    split at h
    · simp at h
    · next ho =>
      cases ha : readArguments inside with
      | error refusal => simp [ha, Except.map, Except.mapError] at h
      | ok arguments =>
        simp only [ha, Except.map, Except.mapError] at h
        obtain ⟨rfl, rfl⟩ := Prod.mk.inj (Except.ok.inj h)
        obtain ⟨hr, rfl⟩ := readArguments_eq_ok_iff.mp ha
        have hp : ∀ part ∈ pieces (· == ',') inside, IsPart part := fun part hp =>
          ⟨notMem_of_mem_pieces hp, fun hc => ho (mem_of_mem_pieces hp hc),
            fun hc => hi (mem_of_mem_pieces hp hc), hr part hp⟩
        have hitem := Item.call rest hn (pieces_ne_nil ',' inside) hp
        rw [intercalate_pieces] at hitem
        exact ⟨_, rest, by simp, by simp; omega, hitem⟩

lemma readCall_of_item {text : List Char} {call : Call}
    (h : Item ⟨':' :: text, some call⟩ rest) (position : Nat) :
    readCall position (text ++ rest) = .ok (call, text.length) := by
  cases h with
  | bareCall hn hr => exact readCall_bare position hn hr
  | @call name parts _ hn hne hp =>
    have hclose : ')' ∉ [','].intercalate parts := fun hm => by
      rcases mem_intercalate.mp hm with ⟨hc, -⟩ | ⟨part, hpart, hc⟩
      · exact absurd hc (by decide)
      · exact (hp part hpart).closing hc
    have hopen : '(' ∉ [','].intercalate parts := fun hm => by
      rcases mem_intercalate.mp hm with ⟨hc, -⟩ | ⟨part, hpart, hc⟩
      · exact absurd hc (by decide)
      · exact (hp part hpart).opening hc
    have ha : readArguments ([','].intercalate parts) = .ok (argumentsOf parts) := by
      rw [readArguments_eq_ok_iff, pieces_intercalate hne fun part hpart => (hp part hpart).comma]
      exact ⟨fun part hpart => (hp part hpart).readable, rfl⟩
    have hread := readCall_applied position rest hn hclose
    simp only [hopen, if_false, ha, Except.mapError, Except.map] at hread
    simp [hread]
    omega

lemma exists_of_extent {call? : Option Call} (h : extent position c cs = .ok (call?, n)) :
    ∃ text rest, cs = text ++ rest ∧ text.length = n ∧ Item ⟨c :: text, call?⟩ rest := by
  simp only [extent, beq_iff_eq] at h
  split at h
  · next hc =>
    subst hc
    obtain ⟨rfl, rfl⟩ := Prod.mk.inj (Except.ok.inj h)
    cases cs with
    | nil => exact ⟨[], [], rfl, rfl, .ending⟩
    | cons d rest => exact ⟨[d], rest, rfl, by simp, .escape d rest⟩
  split at h
  · next hc =>
    subst hc
    cases hr : readCall position cs with
    | error stop => simp [hr, Except.map] at h
    | ok found =>
      obtain ⟨rfl, rfl⟩ := Prod.mk.inj (Except.ok.inj (hr ▸ h))
      exact exists_of_readCall hr
  split at h
  · next hc =>
    subst hc
    split at h
    · next m hs =>
      obtain ⟨rfl, rfl⟩ := Prod.mk.inj (Except.ok.inj h)
      obtain ⟨body, rest, rfl, hm, hb⟩ := exists_of_blockSpan hs
      exact ⟨body, rest, rfl, by omega, .block rest hb⟩
    · simp at h
    · simp at h
  split at h
  · next hq =>
    split at h
    · next m hs =>
      obtain ⟨rfl, rfl⟩ := Prod.mk.inj (Except.ok.inj h)
      obtain ⟨body, rest, rfl, hm, hb⟩ := exists_of_quotedSpan hs
      exact ⟨body, rest, rfl, hm, .quoted rest hq hb⟩
    · simp at h
  · next hb hcolon hbracket hq =>
    obtain ⟨rfl, rfl⟩ := Prod.mk.inj (Except.ok.inj h)
    exact ⟨[], cs, rfl, rfl, .char cs hb (by simpa using hq) hbracket hcolon⟩

lemma extent_of_item {text : List Char} {call? : Option Call} (h : Item ⟨c :: text, call?⟩ rest)
    (position : Nat) : extent position c (text ++ rest) = .ok (call?, text.length) := by
  cases h with
  | escape d => simp [extent]
  | ending => simp [extent]
  | quoted _ hq hb =>
    have hne := quote_ne_backslash hq
    have hcolon : c ≠ ':' := by rintro rfl; exact absurd hq (by decide)
    have hbracket : c ≠ '[' := by rintro rfl; exact absurd hq (by decide)
    simp [extent, hne, hcolon, hbracket, hq, quotedSpan_append hq hb]
  | block _ hb => simp [extent, blockSpan_append hb]
  | bareCall hn hr =>
    have hread := readCall_of_item (.bareCall hn hr) position
    simp [extent, hread, Except.map]
  | call _ hn hne hp =>
    have hread := readCall_of_item (.call rest hn hne hp) position
    simp only [extent, hread, Except.map]
    simp
  | char _ hb hq hbracket hcolon => simp [extent, hb, hq, hbracket, hcolon]

lemma Item.text_ne_nil {l : Lexeme} (h : Item l rest) : l.text ≠ [] := by
  cases h <;> simp

lemma Item.colon_mem {text : List Char} {call : Call} (h : Item ⟨text, some call⟩ rest) :
    ':' ∈ text := by
  cases h <;> simp

lemma lexemes_eq_ok_iff {ls : List Lexeme} (position : Nat) :
    lexemes position cs = .ok ls ↔ Split cs ls := by
  constructor
  · intro h
    fun_induction lexemes position cs generalizing ls with
    | case1 =>
      obtain rfl := Except.ok.inj h
      exact .nil
    | case2 => simp at h
    | case3 => simp at h
    | case4 position c rest call? n he ls' hls ih =>
      obtain rfl := Except.ok.inj h
      obtain ⟨text, after, rfl, rfl, hi⟩ := exists_of_extent he
      rw [List.drop_left] at hls ih
      rw [List.take_left]
      exact .cons hi (ih hls)
  · intro h
    induction h generalizing position with
    | nil => rw [lexemes]
    | @cons l rest ls hi hs ih =>
      obtain ⟨text, call?⟩ := l
      cases text with
      | nil => exact absurd rfl hi.text_ne_nil
      | cons c text =>
        rw [List.cons_append, lexemes, extent_of_item hi]
        simp [ih]

theorem Split.unique {ls ms : List Lexeme} (hl : Split cs ls) (hm : Split cs ms) : ls = ms :=
  Except.ok.inj (((lexemes_eq_ok_iff 0).mpr hl).symm.trans ((lexemes_eq_ok_iff 0).mpr hm))

lemma segments_eq_ok_iff {s : String} {ss : List Segment} :
    segments s = .ok ss ↔
      ¬ Blank s.toList ∧ ∃ ls, Split s.toList ls ∧ ss = gather 0 [] ls := by
  have hb : s.toList.all isBlank = true ↔ Blank s.toList := by simp [Blank]
  rw [segments, segmentsOf]
  by_cases hs : Blank s.toList
  · simp [hb.mpr hs, hs, Except.mapError]
  rw [if_neg (mt hb.mp hs)]
  cases hl : lexemes 0 s.toList with
  | error stop =>
    have hn : ¬ ∃ ls, Split s.toList ls ∧ ss = gather 0 [] ls := by
      rintro ⟨ls, h, -⟩
      rw [(lexemes_eq_ok_iff 0).mpr h] at hl
      cases hl
    simp [Except.map, Except.mapError, hn]
  | ok ls =>
    have hsplit := (lexemes_eq_ok_iff 0).mp hl
    simp only [Except.map, Except.mapError, Except.ok.injEq, hs, not_false_eq_true, true_and]
    constructor
    · intro h
      exact ⟨ls, hsplit, h.symm⟩
    · rintro ⟨ms, hm, rfl⟩
      rw [hsplit.unique hm]

/-- A selector is read if and only if it is not blank and splits into items. It splits in one way
only, and its segments are what the items gather to. -/
theorem exists_segments_iff_split (s : String) :
    ((∃ ss, segments s = .ok ss) ↔
      (∃ c ∈ s.toList, isBlank c = false) ∧ ∃ items, Split s.toList items) ∧
    (∀ items others, Split s.toList items → Split s.toList others → items = others) ∧
    ∀ ss items, segments s = .ok ss → Split s.toList items → ss = gather 0 [] items := by
  refine ⟨?_, fun items others hi ho => hi.unique ho, fun ss items h hi => ?_⟩
  · rw [← not_blank_iff]
    constructor
    · rintro ⟨ss, h⟩
      obtain ⟨hb, ls, hl, -⟩ := segments_eq_ok_iff.mp h
      exact ⟨hb, ls, hl⟩
    · rintro ⟨hb, ls, hl⟩
      exact ⟨gather 0 [] ls, segments_eq_ok_iff.mpr ⟨hb, ls, hl, rfl⟩⟩
  · obtain ⟨-, ls, hl, rfl⟩ := segments_eq_ok_iff.mp h
    rw [hl.unique hi]

end MarkupQuery.Selector

import MarkupQuery.Proofs.Selector.Grammar

namespace MarkupQuery.Selector

open Text

inductive Starts : List Char → List Lexeme → List Char → Prop
  | nil (cs : List Char) : Starts cs [] cs
  | cons {l : Lexeme} {rest left : List Char} {ls : List Lexeme} :
      Item l rest → Starts rest ls left → Starts (l.text ++ rest) (l :: ls) left

def TooLong (token : List Char) : Prop :=
  digitLimit < token.length ∧ ∀ c ∈ token, isAsciiDigit c = true

def HasLongNumber (s : String) : Prop :=
  ∃ ls name inside rest, Starts s.toList ls (':' :: (name ++ '(' :: (inside ++ ')' :: rest))) ∧
    IsName name ∧ '(' ∉ inside ∧ ')' ∉ inside ∧ ∃ token ∈ argumentTokens inside, TooLong token

variable {position : Nat} {c : Char} {cs rest : List Char} {stop : Stop}

lemma tooLong_of_readArgument {token : List Char} (h : readArgument token = .error .digitLimit) :
    TooLong token := by
  rw [readArgument, Argument.ofToken] at h
  split at h
  · cases h
  split at h
  · next hd =>
    split at h
    · cases h
    · next hlen => exact ⟨by omega, by simp_all⟩
  · cases h

lemma exists_of_readEach_error {tokens : List (List Char)} {refusal : Refusal}
    (h : readEach tokens = .error refusal) :
    ∃ token ∈ tokens, readArgument token = .error refusal := by
  induction tokens with
  | nil => cases h
  | cons token tokens ih =>
    rw [readEach] at h
    split at h
    · next ht => exact ⟨token, List.mem_cons_self, Except.error.inj h ▸ ht⟩
    split at h
    · next hts =>
      obtain ⟨t, ht, hread⟩ := ih (Except.error.inj h ▸ hts)
      exact ⟨t, List.mem_cons_of_mem token ht, hread⟩
    · cases h

lemma exists_of_readCall_error (h : readCall position cs = .error stop) :
    (∀ c ∈ cs.head?, isNameChar c = false) ∧ stop = .malformed .missingName position ∨
      ∃ name rest, cs = name ++ '(' :: rest ∧ IsName name ∧
        (')' ∉ rest ∧ stop = .malformed .openArguments (position + 1 + name.length) ∨
          ∃ inside after, rest = inside ++ ')' :: after ∧ ')' ∉ inside ∧
            ('(' ∈ inside ∧ stop = .malformed .nestedArguments (position + 1 + name.length) ∨
              '(' ∉ inside ∧ ∃ token ∈ argumentTokens inside, ∃ refusal,
                readArgument token = .error refusal ∧
                  stop = refusal.stop (position + 1 + name.length + 1))) := by
  cases afterColon cs with
  | nameless hn =>
    rw [readCall_nameless position hn] at h
    exact .inl ⟨hn, (Except.error.inj h).symm⟩
  | unclosed hn hi =>
    rw [readCall_open position hn hi] at h
    exact .inr ⟨_, _, rfl, hn, .inl ⟨hi, (Except.error.inj h).symm⟩⟩
  | bare hn hr =>
    rw [readCall_bare position hn hr] at h
    cases h
  | @applied name inside rest hn hi =>
    rw [readCall_applied position rest hn hi] at h
    refine .inr ⟨name, _, rfl, hn, .inr ⟨inside, rest, rfl, hi, ?_⟩⟩
    split at h
    · next ho => exact .inl ⟨ho, (Except.error.inj h).symm⟩
    · next ho =>
      cases ha : readArguments inside with
      | ok arguments =>
        rw [ha] at h
        cases h
      | error refusal =>
        rw [ha] at h
        obtain ⟨token, htoken, hread⟩ := exists_of_readEach_error ha
        exact .inr ⟨ho, token, htoken, refusal, hread, (Except.error.inj h).symm⟩

inductive CallStops (position : Nat) : List Char → Stop → Prop
  | nameless {cs : List Char} : CallStops position cs (.malformed .missingName position)
  | unclosed {cs : List Char} (here : Nat) : CallStops position cs (.malformed .openArguments here)
  | nested {cs : List Char} (here : Nat) : CallStops position cs (.malformed .nestedArguments here)
  | refused {name inside token rest : List Char} {refusal : Refusal} (here : Nat) :
      IsName name → '(' ∉ inside → ')' ∉ inside → token ∈ argumentTokens inside →
        readArgument token = .error refusal →
          CallStops position (name ++ '(' :: (inside ++ ')' :: rest)) (refusal.stop here)

lemma callStops_of_readCall (h : readCall position cs = .error stop) :
    CallStops position cs stop := by
  obtain ⟨-, rfl⟩ | ⟨name, rest, rfl, hn, ⟨-, rfl⟩ | ⟨inside, after, rfl, hi, hstop⟩⟩ :=
    exists_of_readCall_error h
  · exact .nameless
  · exact .unclosed _
  obtain ⟨-, rfl⟩ | ⟨ho, token, htoken, refusal, hread, rfl⟩ := hstop
  · exact .nested _
  · exact .refused _ hn ho hi htoken hread

lemma callStops_of_extent (h : extent position c rest = .error stop) :
    c = ':' ∧ CallStops position rest stop ∨
      ∃ here, stop = .malformed .openQuote here ∨ stop = .malformed .openBracket here := by
  simp only [extent, beq_iff_eq] at h
  split at h
  · cases h
  split at h
  · next hc =>
    cases hr : readCall position rest with
    | ok found =>
      rw [hr] at h
      cases h
    | error stop' =>
      rw [hr] at h
      obtain rfl := Except.error.inj h
      exact .inl ⟨hc, callStops_of_readCall hr⟩
  split at h
  · split at h
    · cases h
    · exact .inr ⟨_, .inl (Except.error.inj h).symm⟩
    · exact .inr ⟨_, .inr (Except.error.inj h).symm⟩
  split at h
  · split at h
    · cases h
    · exact .inr ⟨_, .inl (Except.error.inj h).symm⟩
  · cases h

lemma exists_of_lexemes_error (h : lexemes position cs = .error stop) :
    ∃ ls before c rest, cs = before ++ c :: rest ∧ Starts cs ls (c :: rest) ∧
      extent (position + before.length) c rest = .error stop := by
  fun_induction lexemes position cs with
  | case1 => cases h
  | case2 position c rest stop' he =>
    exact ⟨[], [], c, rest, rfl, .nil _, Except.error.inj h ▸ he⟩
  | case3 position c rest call? n he stop' hls ih =>
    obtain ⟨text, after, rfl, rfl, hi⟩ := exists_of_extent he
    rw [List.drop_left] at hls ih
    obtain ⟨ls, before, d, left, hafter, hstarts, hextent⟩ := ih (h ▸ hls)
    refine ⟨_, c :: (text ++ before), d, left, by simp [hafter], .cons hi hstarts, ?_⟩
    have hplace : position + 1 + text.length + before.length =
        position + (c :: (text ++ before)).length := by
      rw [List.length_cons, List.length_append]
      omega
    rwa [← hplace]
  | case4 => cases h

lemma exists_of_segments_error {s : String} {fault : Fault} (h : segments s = .error fault) :
    isBlankText s = true ∨
      ∃ stop, lexemes 0 s.toList = .error stop ∧ fault = stop.fault (some s) := by
  rw [segments, segmentsOf] at h
  split at h
  · next hb => exact .inl hb
  · cases hl : lexemes 0 s.toList with
    | ok ls =>
      rw [hl] at h
      cases h
    | error stop =>
      rw [hl] at h
      exact .inr ⟨stop, rfl, (Except.error.inj h).symm⟩

lemma segments_not_blank {s : String} (hs : isBlankText s = false) (selector : Option String)
    (here : Option Int) : segments s ≠ .error (.malformed .blank selector here) := by
  intro h
  obtain hb | ⟨stop, hl, hstop⟩ := exists_of_segments_error h
  · cases hs.symm.trans hb
  obtain ⟨ls, before, c, rest, -, -, hextent⟩ := exists_of_lexemes_error hl
  obtain ⟨-, hcall⟩ | ⟨here, rfl | rfl⟩ := callStops_of_extent hextent
  · cases hcall with
    | @refused name inside token rest refusal => cases refusal <;> cases hstop
    | nameless | unclosed | nested => cases hstop
  · cases hstop
  · cases hstop

lemma hasLongNumber_of_segments {s : String} (h : segments s = .error .digitLimit) :
    HasLongNumber s := by
  obtain hb | ⟨stop, hl, hstop⟩ := exists_of_segments_error h
  · rw [segments, segmentsOf, if_pos (by exact hb)] at h
    cases h
  obtain ⟨ls, before, c, rest, -, hstarts, hextent⟩ := exists_of_lexemes_error hl
  obtain ⟨rfl, hcall⟩ | ⟨here, rfl | rfl⟩ := callStops_of_extent hextent
  · cases hcall with
    | @refused name inside token rest refusal _ hname hopen hclose htoken hread =>
      cases refusal with
      | spaced => cases hstop
      | digitLimit =>
        exact ⟨ls, name, inside, rest, hstarts, hname, hopen, hclose, token, htoken,
          tooLong_of_readArgument hread⟩
    | nameless | unclosed | nested => cases hstop
  · cases hstop
  · cases hstop

end MarkupQuery.Selector

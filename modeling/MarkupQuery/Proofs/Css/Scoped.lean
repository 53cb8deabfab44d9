import MarkupQuery.Css.Reader
import MarkupQuery.Proofs.Css.Lexical
import MarkupQuery.Proofs.Css.Steady

namespace MarkupQuery.Css

open Text

def Combinator.sign? : Combinator → Option Char
  | .descendant => none
  | .child => some '>'
  | .next => some '+'
  | .later => some '~'

def Complex.fromScope (c : Combinator) : Complex → Complex
  | .never => .never
  | .compound parts => .combined (.compound [.scope]) c parts
  | .combined left d parts => .combined (left.fromScope c) d parts

def Selector.fromScope (c : Combinator) : Selector → Selector
  | [] => []
  | x :: xs => x.fromScope c :: xs

inductive Selector.FromScope (c : Combinator) : Selector → Selector → Prop
  | plain (x : Selector) : FromScope c x (x.fromScope c)
  | html (alternatives : List Complex) : FromScope c [.compound [.inHtml alternatives]]
      [.compound [.inHtml (Selector.fromScope c alternatives)]]

inductive Steps (c : Combinator) : List (Link × List Simple) → Link →
    List (Link × List Simple) → Link → Prop
  | first (l link : Link) {link' : Link} (h : link'.combinator = c) :
      Steps c [] link [(l, [.scope])] link'
  | step {steps steps' : List (Link × List Simple)} {link link' : Link} (l : Link)
      (parts : List Simple) (h : Steps c steps link steps' link') :
      Steps c ((link, parts) :: steps) l ((link', parts) :: steps') l

inductive Frame.FromScope (c : Combinator) : Frame → Frame → Prop
  -- While the first alternative is read.
  | first {steps steps' : List (Link × List Simple)} {link link' : Link} (isHtml : Bool)
      (relatives : List Relative) (parts : List Simple) (h : Steps c steps link steps' link') :
      FromScope c ⟨none, isHtml, [], relatives, steps, link, parts⟩
        ⟨none, isHtml, [], relatives, steps', link', parts⟩
  -- Once it is read.
  | rest (isHtml : Bool) (xs : List Complex) (x : Complex) (relatives : List Relative)
      (steps : List (Link × List Simple)) (link : Link) (parts : List Simple) :
      FromScope c ⟨none, isHtml, xs ++ [x], relatives, steps, link, parts⟩
        ⟨none, isHtml, xs ++ [x.fromScope c], relatives, steps, link, parts⟩

inductive Frames (c : Combinator) : Frame → List Frame → Frame → List Frame → Prop
  | whole {f f' : Frame} (h : f.FromScope c f') : Frames c f [] f' []
  | group {g g' : Frame} {outer outer' : List Frame} (f : Frame) (h : Frames c g outer g' outer') :
      Frames c f (g :: outer) f (g' :: outer')

variable {c : Combinator} {steps steps' : List (Link × List Simple)} {link link' : Link}
  {f f' : Frame} {outer outer' : List Frame} {cs : List Char} {a : Char}

lemma Steps.complexOf_eq (h : Steps c steps link steps' link') (parts : List Simple) :
    Frame.complexOf steps' parts link'.combinator =
      (Frame.complexOf steps parts link.combinator).fromScope c := by
  induction h generalizing parts with
  | first l link h =>
    subst h
    rfl
  | step l left _ ih => rw [Frame.complexOf, ih, Frame.complexOf, Complex.fromScope]

namespace Frame.FromScope

lemma parts_eq (h : f.FromScope c f') : f'.parts = f.parts := by
  cases h <;> rfl

lemma isHtml_eq (h : f.FromScope c f') : f'.isHtml = f.isHtml := by
  cases h <;> rfl

lemma add (h : f.FromScope c f') (s : Simple) : (f.add s).FromScope c (f'.add s) := by
  cases h with
  | first _ _ _ h => exact .first _ _ _ h
  | rest _ xs x => exact .rest _ xs x _ _ _ _

lemma onlyHtml (h : f.FromScope c f') :
    FromScope c { f with isHtml := true } { f' with isHtml := true } := by
  cases h with
  | first _ _ _ h => exact .first _ _ _ h
  | rest _ xs x => exact .rest _ xs x _ _ _ _

lemma finish (h : f.FromScope c f') (mark : Nat) :
    (f.finish mark).FromScope c (f'.finish mark) := by
  cases h with
  | first _ _ _ h =>
    simp only [Frame.finish, Frame.reset, isRelative, h.complexOf_eq]
    exact .rest _ [] _ _ _ _ _
  | rest _ xs x => exact .rest _ (_ :: xs) x _ _ _ _

lemma combine? (h : f.FromScope c f') (l : Link) :
    Option.Rel (FromScope c) (f.combine? l) (f'.combine? l) := by
  cases h with
  | first _ _ parts h =>
    cases parts with
    | nil => exact .none
    | cons p ps => exact .some (.first _ _ _ (h.step l _))
  | rest _ xs x _ _ _ parts =>
    cases parts with
    | nil => exact .none
    | cons p ps => exact .some (.rest _ xs x _ _ _ _)

lemma comma? (h : f.FromScope c f') (mark : Nat) :
    Option.Rel (FromScope c) (f.comma? mark) (f'.comma? mark) := by
  have hnot : f.isForgiving = false ∧ f'.isForgiving = false := by cases h <;> exact ⟨rfl, rfl⟩
  simp only [Frame.comma?, h.parts_eq, hnot]
  split
  · exact .some (h.finish mark)
  · exact .none

lemma alternatives_finish (h : f.FromScope c f') (mark : Nat) :
    (f'.finish mark).alternatives.reverse =
      Selector.fromScope c (f.finish mark).alternatives.reverse := by
  cases h with
  | first _ _ _ h => simp [Frame.finish, isRelative, h.complexOf_eq, Selector.fromScope]
  | rest => simp [Frame.finish, isRelative, Frame.reset, Selector.fromScope]

lemma selector_finish (h : f.FromScope c f') (mark : Nat) :
    (f.finish mark).selector.FromScope c (f'.finish mark).selector := by
  have halternatives := h.alternatives_finish mark
  simp only [selector, (h.finish mark).isHtml_eq, halternatives]
  split
  · exact .html _
  · exact .plain _

end Frame.FromScope

namespace Frames

lemma parts_eq (h : Frames c f outer f' outer') : f'.parts = f.parts := by
  cases h with
  | whole h => exact h.parts_eq
  | group => rfl

lemma add (h : Frames c f outer f' outer') (s : Simple) :
    Frames c (f.add s) outer (f'.add s) outer' := by
  cases h with
  | whole h => exact .whole (h.add s)
  | group f h => exact .group _ h

lemma onlyHtml (h : Frames c f outer f' outer') :
    Frames c { f with isHtml := true } outer { f' with isHtml := true } outer' := by
  cases h with
  | whole h => exact .whole h.onlyHtml
  | group f h => exact .group _ h

lemma step? {step : Frame → Option Frame} (h : Frames c f outer f' outer')
    (hstep : ∀ f f', f.FromScope c f' → Option.Rel (Frame.FromScope c) (step f) (step f')) :
    Option.Rel (fun g g' => Frames c g outer g' outer') (step f) (step f') := by
  cases h with
  | whole h =>
    have hrel := hstep _ _ h
    generalize step f = g? at hrel ⊢
    generalize step f' = g?' at hrel ⊢
    cases hrel with
    | none => exact .none
    | some hg => exact .some (.whole hg)
  | group f h =>
    cases step f with
    | none => exact .none
    | some g => exact .some (.group g h)

end Frames

lemma exists_assemble_frames {isWhole : Bool} {ts : List Token} {x : Selector}
    (h : Frames c f outer f' outer') (hx : assemble isWhole ts f outer = .ok x) :
    ∃ x', assemble isWhole ts f' outer' = .ok x' ∧ x.FromScope c x' := by
  induction ts generalizing f f' outer outer' with
  | nil =>
    cases h with
    | whole h =>
      simp only [assemble, h.parts_eq] at hx ⊢
      split at hx
      · cases hx
      · next hparts =>
        obtain rfl := Except.ok.inj hx
        exact ⟨_, if_neg hparts, h.selector_finish 0⟩
    | group => cases hx
  | cons t ts ih =>
    cases t with
    | leading s =>
      simp only [assemble, h.parts_eq] at hx ⊢
      split at hx
      · cases hx
      next hparts =>
      rw [if_neg hparts]
      cases s with
      | none => cases hx
      | some s => exact ih (h.add s) hx
    | simple s =>
      cases s with
      | none => cases hx
      | some s => exact ih (h.add s) hx
    | combinator d =>
      have hrel := h.step? fun _ _ h => h.combine? ⟨d, ts.length⟩
      simp only [assemble] at hx ⊢
      generalize f.combine? _ = g? at hrel hx
      generalize f'.combine? _ = g?' at hrel ⊢
      cases hrel with
      | none => cases hx
      | some hg => exact ih hg hx
    | comma =>
      have hrel := h.step? fun _ _ h => h.comma? ts.length
      simp only [assemble] at hx ⊢
      generalize f.comma? _ = g? at hrel hx
      generalize f'.comma? _ = g?' at hrel ⊢
      cases hrel with
      | none => cases hx
      | some hg => exact ih hg hx
    -- Inside a group both frames are the same, and stay so until it is closed.
    | opening o => exact ih (.group _ h) hx
    | onlyHtml => exact ih h.onlyHtml hx
    | closing =>
      cases h with
      | whole => cases hx
      | group f h =>
        simp only [assemble] at hx ⊢
        split at hx
        · exact ih (h.add _) hx
        · cases hx
    | unsupported => cases outer <;> cases hx

lemma identifier_scope :
    identifier ('s' :: 'c' :: 'o' :: 'p' :: 'e' :: ' ' :: cs) =
      some (.text "scope", ' ' :: cs) :=
  identifier_of_name ['c', 'o', 'p', 'e'] rfl rfl rfl

lemma token_scope (cs : List Char) : token (':' :: 's' :: 'c' :: 'o' :: 'p' :: 'e' :: ' ' :: cs) =
    some ([.simple (some .scope)], ' ' :: cs) := by
  have hlower : lowered "scope" = "scope" := by decide
  change pseudo ('s' :: 'c' :: 'o' :: 'p' :: 'e' :: ' ' :: cs) = _
  rw [pseudo, identifier_scope]
  change knownPseudo (lowered "scope") (' ' :: cs) = _
  rw [hlower]
  rfl

lemma token_sign (h : c.sign? = some a) (cs : List Char) :
    token (' ' :: a :: ' ' :: cs) = some ([.combinator c], skipSpace cs) := by
  have hgap : isGap a = false ∧ a ≠ '/' := by cases c <;> cases h <;> decide
  have hstart : skipSpace (' ' :: a :: ' ' :: cs) = a :: ' ' :: cs := by
    rw [skipSpace_gap rfl, skipSpace_of_none (space_of_not_gap hgap.1 hgap.2)]
  change separator (' ' :: a :: ' ' :: cs) = _
  rw [separator, hstart, ← skipSpace_gap (show isGap ' ' = true from rfl) cs]
  cases c <;> cases h <;> rfl

lemma closingLength_cons (h : space (a :: cs) = none) :
    closingLength (a :: cs) = closingLength cs := by
  rw [closingLength, skipSpace_of_none h]
  rfl

lemma closingLength_le (cs : List Char) : closingLength cs ≤ cs.length := by
  induction cs with
  | nil => exact Nat.le_refl _
  | cons c cs ih =>
    rw [closingLength]
    split
    · exact Nat.le_refl _
    · exact Nat.le_succ_of_le ih

lemma many_tokenBefore_cons {n : Nat} {ts : List Token} {rest : List Char} (hn : n < cs.length)
    (h : token cs = some (ts, rest)) (hlt : rest.length < cs.length) :
    many (tokenBefore n) cs =
      (ts :: (many (tokenBefore n) rest).1, (many (tokenBefore n) rest).2) :=
  many_cons (by rw [tokenBefore, if_neg (by omega), h]) hlt

lemma tokens_fromScope (h : c.sign? = some a) (cs : List Char) :
    tokens (":scope ".toList ++ a :: ' ' :: cs) =
      (.simple (some .scope) :: .combinator c :: (tokens cs).1, (tokens cs).2) := by
  have ha : space (a :: ' ' :: cs) = none := by cases c <;> cases h <;> rfl
  have hclosing : closingLength (":scope ".toList ++ a :: ' ' :: cs) =
      closingLength (' ' :: cs) := by
    have hblank : closingLength (' ' :: a :: ' ' :: cs) = closingLength (a :: ' ' :: cs) := by
      rw [closingLength, skipSpace_gap rfl, skipSpace_of_none ha]
      rfl
    change closingLength (':' :: 's' :: 'c' :: 'o' :: 'p' :: 'e' :: ' ' :: a :: ' ' :: cs) = _
    rw [closingLength_cons rfl, closingLength_cons rfl, closingLength_cons rfl,
      closingLength_cons rfl, closingLength_cons rfl, closingLength_cons rfl, hblank,
      closingLength_cons ha]
  have hle := closingLength_le (' ' :: cs)
  have hskip : skipSpace (":scope ".toList ++ a :: ' ' :: cs) =
      ':' :: 's' :: 'c' :: 'o' :: 'p' :: 'e' :: ' ' :: a :: ' ' :: cs := skipSpace_of_none rfl
  have hlt : (skipSpace cs).length < (' ' :: a :: ' ' :: cs).length := by
    have hle := (skipSpace_suffix cs).length_le
    simp only [List.length_cons]
    omega
  have hscope := many_tokenBefore_cons (by simp at hle ⊢; omega) (token_scope (a :: ' ' :: cs))
    (by simp) (n := closingLength (' ' :: cs))
  have hsign := many_tokenBefore_cons (by simp at hle ⊢; omega) (token_sign h cs) hlt
    (n := closingLength (' ' :: cs))
  rw [hsign] at hscope
  rw [tokens, hclosing, hskip, hscope, tokens, closingLength, skipSpace_gap rfl]
  -- A text of gaps and comments has no tokens, and the blank before it ends with it.
  cases hcs : skipSpace cs with
  | nil => simp [many_of_none, tokenBefore]
  | cons d ds => rfl

lemma Selector.exists_ofText_fromScope (h : c.sign? = some a) {css : String} {x : Selector}
    (hx : ofText css = .ok x) :
    ∃ x', ofText (":scope " ++ (String.ofList [a, ' '] ++ css)) = .ok x' ∧ x.FromScope c x' := by
  have hmap : (":scope " ++ (String.ofList [a, ' '] ++ css)).toList.map withoutNull =
      ":scope ".toList ++ a :: ' ' :: css.toList.map withoutNull := by
    cases c <;> cases h <;> simp [withoutNull]
  rw [ofText] at hx
  rw [ofText, hmap, tokens_fromScope h]
  generalize tokens (css.toList.map withoutNull) = read at hx ⊢
  obtain ⟨ts, isWhole⟩ := read
  have hframes : Frames c (.start none ts.length) []
      ⟨none, false, [], [], [(⟨.descendant, ts.length + 2⟩, [.scope])], ⟨c, ts.length⟩, []⟩ [] :=
    .whole (.first _ _ _ (.first _ _ rfl))
  have hx : assemble isWhole ts (.start none ts.length) [] = .ok x := hx
  obtain ⟨x', hx', hscope⟩ := exists_assemble_frames hframes hx
  exact ⟨x', hx', hscope⟩

inductive Simple.IsPart : Simple → Prop
  | type (space : Prefix) (name : Option String) : IsPart (.type space name)
  | id (name : String) : IsPart (.id name)
  | className (name : String) : IsPart (.className name)
  | test (test : AttributeTest) : IsPart (.attribute test)
  | unequal (test : AttributeTest) : IsPart (.noneOf [.compound [.attribute test]])
  | nothing : IsPart .nothing
  | anything : IsPart (.noneOf [])

variable {lib : Library} {parts : List Simple} {n m : Node} {memory : Memory} {prefixes : Prefixes}

lemma Selector.ofText_leading (h : c.sign? = some a) {css : String}
    (hx : ofText css = .ok [.compound parts]) (hparts : ∀ p ∈ parts, p.IsPart) :
    ofText (":scope " ++ (String.ofList [a, ' '] ++ css)) =
      .ok [.combined (.compound [.scope]) c parts] := by
  obtain ⟨x', hx', hscope⟩ := exists_ofText_fromScope h hx
  rw [hx']
  cases hscope with
  | plain => rfl
  | html => cases hparts _ (List.mem_singleton_self _)

lemma accepts_scope (n m : Node) :
    Complex.accepts lib ⟨some n, prefixes, false⟩ (.compound [.scope]) m = pure (n == m) := by
  simp only [Complex.accepts, allAccept, Simple.accepts, pure_bind, Option.some_beq_some]
  cases n == m <;> rfl

lemma anyM_scope (n : Node) (ns : List Node) :
    (ns.anyM fun m => Complex.accepts lib ⟨some n, prefixes, false⟩ (.compound [.scope]) m) =
      pure (ns.contains n) := by
  induction ns with
  | nil => rfl
  | cons m ns ih =>
    rw [List.anyM, accepts_scope, pure_bind, ih, List.contains_cons]
    cases n == m <;> rfl

lemma leading_accepts (c : Combinator) (parts : List Simple) (n m : Node) :
    Complex.accepts lib ⟨some n, prefixes, false⟩ (.combined (.compound [.scope]) c parts) m = do
      return (← allAccept lib ⟨some n, prefixes, false⟩ parts m) &&
        (before lib m c).contains n := by
  have hbefore : Origin.before lib ⟨some n, prefixes, false⟩ m c = before lib m c := rfl
  simp only [Complex.accepts.eq_3, hbefore, anyM_scope]
  refine bind_congr fun b => ?_
  cases b <;> rfl

lemma anyAccepts_leading (c : Combinator) (parts : List Simple) (n m : Node) :
    ((anyAccepts lib ⟨some n, prefixes, false⟩ [.combined (.compound [.scope]) c parts] m).run
      memory).1 = (((allAccept lib ⟨some n, prefixes, false⟩ parts m).run memory).1 &&
        (before lib m c).contains n) := by
  simp only [anyAccepts, leading_accepts, bind_assoc, pure_bind, StateT.run_bind]
  change (StateT.run (if ((allAccept lib _ parts m).run memory).1 && _ then _ else _ :
    StateM Memory Bool) _).1 = _
  generalize (((allAccept lib _ parts m).run memory).1 && (before lib m c).contains n) = b
  cases b <;> rfl

lemma scopeOf_of_not_isRoot (hn : n.isRoot = false) : scopeOf lib n = some n := by
  simp [scopeOf, hn]

lemma of_mem_select_leading (hn : n.isRoot = false)
    (h : m ∈ select lib [.combined (.compound [.scope]) c parts] n) :
    m ∈ lib.descendantElements n ∧ n ∈ before lib m c := by
  obtain ⟨memory, hm⟩ := exists_of_mem_keepM h
  rw [scopeOf_of_not_isRoot hn, anyAccepts_leading, Bool.and_eq_true, List.contains_iff_mem] at hm
  exact ⟨(select_sublist lib _ n).subset h, hm.2⟩

lemma select_leading (h : partsSteady (lib.dialect n.document) parts = true) (c : Combinator)
    (hn : n.isRoot = false) :
    select lib [.combined (.compound [.scope]) c parts] n = (lib.descendantElements n).filter
      fun m => Selector.judges lib [.compound parts] m && (before lib m c).contains n := by
  refine select_eq_filter fun m hm memory => ?_
  have hdoc : m.document = n.document := (Library.finds_descendantElements n m hm).1
  have hparts := allAccept_yields (hdoc ▸ h) (isLike_prefixesAt (some n) hdoc)
  rw [scopeOf_of_not_isRoot hn, anyAccepts_leading, hparts]

end MarkupQuery.Css

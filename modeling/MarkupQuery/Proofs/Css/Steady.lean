import MarkupQuery.Proofs.Css.Yields
import MarkupQuery.Proofs.Nodes.Direction

namespace MarkupQuery.Css

open Markup

mutual

/-- Whether a selector judges each element of a document by itself: it does not name the scope, and
asks in no group `has` for later siblings. In XML it names no prefix; in HTML, where no prefix is
known, it takes no element without a language for one of the empty language. -/
def Simple.isSteady (d : Dialect) : Simple → Bool
  | .type space _ => !space.isNamed || d == .html
  | .attribute test => !test.space.isNamed || d == .html
  | .scope => false
  | .nthOf _ _ _ alternatives => allSteady d alternatives
  | .language ranges => !(ranges.any fun range => inRange range "") || d == .xml
  | .anyOf alternatives => allSteady d alternatives
  | .noneOf alternatives => allSteady d alternatives
  | .inHtml alternatives => allSteady d alternatives
  | .has alternatives => allStepsSteady d alternatives
  | _ => true

def partsSteady (d : Dialect) : List Simple → Bool
  | [] => true
  | s :: ss => s.isSteady d && partsSteady d ss

def Complex.isSteady (d : Dialect) : Complex → Bool
  | .never => true
  | .compound parts => partsSteady d parts
  | .combined left _ parts => left.isSteady d && partsSteady d parts

def allSteady (d : Dialect) : List Complex → Bool
  | [] => true
  | c :: cs => c.isSteady d && allSteady d cs

def Relative.isSteady (d : Dialect) : Relative → Bool
  | .last _ c parts => c != .later && partsSteady d parts
  | .step _ c parts rest => c != .later && partsSteady d parts && rest.isSteady d

def allStepsSteady (d : Dialect) : List Relative → Bool
  | [] => true
  | r :: rs => r.isSteady d && allStepsSteady d rs

end

def Selector.isSteady (d : Dialect) (s : Selector) : Bool := allSteady d s

lemma isSteady_compound (d : Dialect) (parts : List Simple) :
    Selector.isSteady d [.compound parts] = partsSteady d parts :=
  Bool.and_true _

section Near

variable {lib : Library} {o : Origin} {c : Combinator} {n m : Node}

lemma document_of_mem_ancestors (h : m ∈ n.ancestors) : m.document = n.document := by
  obtain ⟨path, -, rfl⟩ := List.mem_map.mp h
  rfl

lemma document_of_mem_before (h : m ∈ o.before lib n c) : m.document = n.document := by
  have hm : m ∈ before lib n c := by
    rw [Origin.before] at h
    split at h
    · exact List.takeWhile_subset _ h
    · exact h
  cases c with
  | descendant => exact document_of_mem_ancestors hm
  | child => exact Library.parent?_document (Option.mem_toList.mp hm)
  | next => exact (Library.finds_precedingElements n m (List.mem_of_mem_take hm)).1
  | later => exact (Library.finds_precedingElements n m hm).1

lemma document_of_mem_elementsInside (h : m ∈ elementsInside lib n) : m.document = n.document := by
  rw [elementsInside] at h
  split at h
  · cases h
  · exact (Library.finds_descendantElements n m (List.mem_filter.mp h).1).1

lemma document_of_mem_after (h : m ∈ o.after lib n c) : m.document = n.document := by
  rw [Origin.after] at h
  split at h
  · exact document_of_mem_elementsInside h
  split at h
  · cases h
  cases c with
  | descendant => exact (Library.finds_descendantElements n m h).1
  | child => exact (Library.finds_childElements n m h).1
  | next => exact (Library.finds_followingElements n m (List.mem_of_mem_take h)).1
  | later => exact (Library.finds_followingElements n m h).1

lemma document_of_mem_beside {fromEnd : Bool} (h : m ∈ beside lib n fromEnd) :
    m.document = n.document := by
  cases fromEnd with
  | true => exact (Library.finds_followingElements n m h).1
  | false => exact (Library.finds_precedingElements n m h).1

lemma document_of_mem_outerNodes (h : m ∈ n :: outerNodes lib n) : m.document = n.document := by
  rcases List.mem_cons.mp h with rfl | h
  · rfl
  rw [outerNodes] at h
  split at h
  · exact document_of_mem_ancestors (List.takeWhile_subset _ h)
  · exact document_of_mem_ancestors h

lemma headOf?_top (h : lib.dialect n.document = .xml) :
    headOf? lib (((n :: outerNodes lib n).getLast?).getD n) = none := by
  have htop : (((n :: outerNodes lib n).getLast?).getD n).document = n.document := by
    rw [List.getLast?_eq_some_getLast (List.cons_ne_nil _ _)]
    exact document_of_mem_outerNodes (List.getLast_mem _)
  simp [headOf?, htop, h]

end Near

-- Origins that differ in their scopes, and in their prefixes too where elements can name these.
def Origin.IsLike (d : Dialect) (o o' : Origin) : Prop :=
  o'.closesFrames = o.closesFrames ∧ (d = .html → o'.prefixes = o.prefixes)

def Settled (d : Dialect) (o : Origin) (test : Origin → StateM Memory Bool) : Prop :=
  ∃ b, ∀ o', o.IsLike d o' → Yields (test o') b

section Settled

variable {lib : Library} {d : Dialect} {o : Origin} {n : Node}

lemma Settled.of_pure (b : Bool) : Settled d o fun _ => pure b := ⟨b, fun _ _ => .of_pure b⟩

lemma Settled.of_const {f : Origin → Bool} (h : ∀ o', o.IsLike d o' → f o' = f o) :
    Settled d o fun o => pure (f o) :=
  ⟨f o, fun o' ho _ => h o' ho⟩

lemma Settled.bind {test : Origin → StateM Memory Bool} {next : Bool → Origin → StateM Memory Bool}
    (h : Settled d o test) (hnext : ∀ b, Settled d o (next b)) :
    Settled d o fun o => test o >>= fun b => next b o := by
  obtain ⟨b, hb⟩ := h
  obtain ⟨a, ha⟩ := hnext b
  exact ⟨a, fun o' ho => (hb o' ho).bind (ha o' ho)⟩

lemma Settled.map {test : Origin → StateM Memory Bool} (h : Settled d o test) (f : Bool → Bool) :
    Settled d o fun o => do return f (← test o) :=
  h.bind fun b => .of_pure (f b)

lemma Settled.ite {test yes no : Origin → StateM Memory Bool} (h : Settled d o test)
    (hyes : Settled d o yes) (hno : Settled d o no) :
    Settled d o fun o => (do if ← test o then yes o else no o) := by
  obtain ⟨b, hb⟩ := h
  obtain ⟨y, hy⟩ := hyes
  obtain ⟨z, hz⟩ := hno
  refine ⟨if b then y else z, fun o' ho => (hb o' ho).bind ?_⟩
  cases b with
  | true => exact hy o' ho
  | false => exact hz o' ho

lemma Settled.exists_yields {test : Origin → Node → StateM Memory Bool} {ns : List Node}
    (h : ∀ m ∈ ns, Settled d o fun o => test o m) :
    ∃ p : Node → Bool, ∀ o', o.IsLike d o' → ∀ m ∈ ns, Yields (test o' m) (p m) := by
  refine ⟨fun m => ((test o m).run .empty).1, fun o' ho m hm memory => ?_⟩
  obtain ⟨b, hb⟩ := h m hm
  exact (hb o' ho memory).trans (hb o ⟨rfl, fun _ => rfl⟩ .empty).symm

lemma Settled.anyM {test : Origin → Node → StateM Memory Bool} {near : Origin → List Node}
    (hnear : ∀ o', o.IsLike d o' → near o' = near o)
    (h : ∀ m ∈ near o, Settled d o fun o => test o m) :
    Settled d o fun o => (near o).anyM (test o) := by
  obtain ⟨p, hp⟩ := Settled.exists_yields h
  refine ⟨(near o).any p, fun o' ho => ?_⟩
  dsimp only
  rw [hnear o' ho]
  exact .anyM (hp o' ho)

lemma before_eq {c : Combinator} {o' : Origin} (ho : o.IsLike d o') :
    o'.before lib n c = o.before lib n c := by
  simp only [Origin.before, ho.1]

lemma after_eq {c : Combinator} {o' : Origin} (ho : o.IsLike d o') :
    o'.after lib n c = o.after lib n c := by
  simp only [Origin.after, ho.1]

lemma Settled.reaches {mark : Nat} {c : Combinator} {test : Origin → Node → StateM Memory Bool}
    (hc : c ≠ .later) (h : ∀ m, m.document = n.document → Settled d o fun o => test o m) :
    Settled d o fun o => reaches lib o mark c n (test o) := by
  cases c with
  | later => exact absurd rfl hc
  | _ => exact .anyM (fun _ => after_eq) fun m hm => h m (document_of_mem_after hm)

-- Without a given language an answer is none or the empty language, and no range takes either. No
-- head is asked in XML.
lemma Settled.language {ranges : List String} (hn : lib.dialect n.document = d)
    (h : (ranges.any fun range => inRange range "") = false ∨ d = .xml) :
    Settled d o fun _ => do
      return (← languageOf? lib n).any fun l => ranges.any fun range => inRange range l := by
  simp only [languageOf?]
  cases givenLanguage? lib n with
  | some l => exact .of_pure _
  | none =>
    cases hhead : headOf? lib (((n :: outerNodes lib n).getLast?).getD n) with
    | none => exact .of_pure false
    | some head =>
      have h : (ranges.any fun range => inRange range "") = false := by
        refine h.resolve_right fun hd => ?_
        rw [headOf?_top (hn.trans hd)] at hhead
        cases hhead
      dsimp only
      cases headLanguage? lib head with
      | some l => exact .of_pure _
      | none =>
        refine ⟨false, fun _ _ memory => ?_⟩
        change Option.any _ (StateT.run (if memory.unlabelled.contains _ then
          pure (some "") else _ : StateM Memory (Option String)) memory).1 = false
        split
        · exact h
        · rfl

lemma inSpace_eq {space : Prefix} {o' : Origin} (h : (!space.isNamed || d == .html) = true)
    (ho : o.IsLike d o') : inSpace lib o'.prefixes n space = inSpace lib o.prefixes n space := by
  cases space with
  | named label => rw [ho.2 (by simpa [Prefix.isNamed] using h)]
  | _ => rfl

lemma attributeContent?_eq {space : Prefix} {o' : Origin}
    (h : (!space.isNamed || d == .html) = true) (ho : o.IsLike d o') (name : String) :
    attributeContent? lib o'.prefixes n space name =
      attributeContent? lib o.prefixes n space name := by
  cases space with
  | named label => rw [ho.2 (by simpa [Prefix.isNamed] using h)]
  | _ => simp [attributeContent?]

lemma accepts_attribute (lib : Library) (o : Origin) (test : AttributeTest) (n : Node) :
    Simple.accepts lib o (.attribute test) n =
      pure ((attributeContent? lib o.prefixes n test.space test.name).any
        (test.accepts (lib.dialect n.document))) := by
  rw [Simple.accepts]
  cases attributeContent? lib o.prefixes n test.space test.name <;> rfl

mutual

lemma Simple.settled : (s : Simple) → s.isSteady d = true → (o : Origin) → (n : Node) →
    lib.dialect n.document = d → Settled d o fun o => s.accepts lib o n
  | .type space name, h, o, n, _ => by
    refine .of_const fun o' ho => ?_
    rw [inSpace_eq h ho]
  | .id name, _, o, n, _ => .of_pure _
  | .className name, _, o, n, _ => .of_pure _
  | .attribute test, h, o, n, _ => by
    simp only [accepts_attribute]
    refine .of_const fun o' ho => ?_
    rw [attributeContent?_eq h ho]
  | .root, _, o, n, _ => .of_pure _
  | .empty, _, o, n, _ => .of_pure _
  | .nth _ _ _ _, _, o, n, _ => .of_pure _
  | .nthOf step offset fromEnd alternatives, h, o, n, hn => by
    have hbeside (m : Node) (hm : m ∈ beside lib n fromEnd) :
        Settled d o fun o => anyAccepts lib o alternatives m :=
      anyAccepts_settled alternatives h o m (by rw [document_of_mem_beside hm, hn])
    obtain ⟨p, hp⟩ := Settled.exists_yields hbeside
    let count (counted : List Node) : Bool := isNth step offset (counted.length + 1)
    exact (anyAccepts_settled alternatives h o n hn).ite
      ⟨_, fun o' ho => (Yields.keepM (hp o' ho)).map count⟩ (.of_pure false)
  | .state _, _, o, n, _ => .of_pure _
  | .language ranges, h, o, n, hn => .language hn (by simpa [Simple.isSteady] using h)
  | .direction _, _, o, n, _ => .of_pure _
  | .contains _ _, _, o, n, _ => .of_pure _
  | .anyOf alternatives, h, o, n, hn => anyAccepts_settled alternatives h o n hn
  | .noneOf alternatives, h, o, n, hn => (anyAccepts_settled alternatives h o n hn).map (!·)
  | .inHtml alternatives, h, o, n, hn => by
    simp only [Simple.accepts]
    split
    · obtain ⟨b, hb⟩ := anyAccepts_settled alternatives h o.html n hn
      exact ⟨b, fun o' _ => hb o'.html ⟨rfl, fun _ => rfl⟩⟩
    · exact .of_pure false
  | .has alternatives, h, o, n, hn => anyReached_settled alternatives h o n hn

lemma allAccept_settled : (ss : List Simple) → partsSteady d ss = true → (o : Origin) →
    (n : Node) → lib.dialect n.document = d → Settled d o fun o => allAccept lib o ss n
  | [], _, _, _, _ => .of_pure true
  | s :: ss, h, o, n, hn => by
    obtain ⟨hs, hss⟩ := Bool.and_eq_true_iff.mp h
    refine (s.settled hs o n hn).bind fun b => ?_
    split
    · exact (allAccept_settled ss hss o n hn).map (· && b)
    · exact .of_pure false

lemma Complex.settled : (c : Complex) → c.isSteady d = true → (o : Origin) → (n : Node) →
    lib.dialect n.document = d → Settled d o fun o => c.accepts lib o n
  | .never, _, _, _, _ => .of_pure false
  | .compound parts, h, o, n, hn => allAccept_settled parts h o n hn
  | .combined left c parts, h, o, n, hn => by
    obtain ⟨hleft, hparts⟩ := Bool.and_eq_true_iff.mp h
    refine (allAccept_settled parts hparts o n hn).ite (.anyM (fun _ => before_eq) fun m hm => ?_)
      (.of_pure false)
    exact left.settled hleft o m (by rw [document_of_mem_before hm, hn])

lemma anyAccepts_settled : (cs : List Complex) → allSteady d cs = true → (o : Origin) →
    (n : Node) → lib.dialect n.document = d → Settled d o fun o => anyAccepts lib o cs n
  | [], _, _, _, _ => .of_pure false
  | c :: cs, h, o, n, hn => by
    obtain ⟨hc, hcs⟩ := Bool.and_eq_true_iff.mp h
    exact (c.settled hc o n hn).ite (.of_pure true) (anyAccepts_settled cs hcs o n hn)

lemma Relative.settled : (r : Relative) → r.isSteady d = true → (o : Origin) → (n : Node) →
    lib.dialect n.document = d → Settled d o fun o => r.isReached lib o n
  | .last mark c parts, h, o, n, hn => by
    obtain ⟨hc, hparts⟩ := Bool.and_eq_true_iff.mp h
    exact .reaches (by simpa using hc) fun m hm =>
      allAccept_settled parts hparts o m (by rw [hm, hn])
  | .step mark c parts rest, h, o, n, hn => by
    obtain ⟨h, hrest⟩ := Bool.and_eq_true_iff.mp h
    obtain ⟨hc, hparts⟩ := Bool.and_eq_true_iff.mp h
    refine .reaches (by simpa using hc) fun m hm => ?_
    have hm : lib.dialect m.document = d := by rw [hm, hn]
    exact (allAccept_settled parts hparts o m hm).ite (rest.settled hrest o m hm) (.of_pure false)

lemma anyReached_settled : (rs : List Relative) → allStepsSteady d rs = true → (o : Origin) →
    (n : Node) → lib.dialect n.document = d → Settled d o fun o => anyReached lib o rs n
  | [], _, _, _, _ => .of_pure false
  | r :: rs, h, o, n, hn => by
    obtain ⟨hr, hrs⟩ := Bool.and_eq_true_iff.mp h
    exact (r.settled hr o n hn).ite (.of_pure true) (anyReached_settled rs hrs o n hn)

end

end Settled

variable {lib : Library} {s : Selector} {n m : Node}

def Selector.judges (lib : Library) (s : Selector) (n : Node) : Bool :=
  ((anyAccepts lib ⟨none, [], false⟩ s n).run .empty).1

lemma prefixesAt_of_html (h : lib.dialect n.document = .html) : prefixesAt lib n = [] := by
  simp [prefixesAt, h]

lemma isLike_prefixesAt (scope : Option Node) (h : m.document = n.document) :
    Origin.IsLike (lib.dialect m.document) ⟨none, [], false⟩ ⟨scope, prefixesAt lib n, false⟩ :=
  ⟨rfl, fun hd => prefixesAt_of_html (h ▸ hd)⟩

lemma allAccept_yields {parts : List Simple} {o : Origin}
    (h : partsSteady (lib.dialect n.document) parts = true)
    (ho : Origin.IsLike (lib.dialect n.document) ⟨none, [], false⟩ o) :
    Yields (allAccept lib o parts n) (Selector.judges lib [.compound parts] n) := by
  obtain ⟨b, hb⟩ : Settled _ ⟨none, [], false⟩ fun o => allAccept lib o parts n :=
    allAccept_settled parts h _ n rfl
  have hone : Yields (anyAccepts lib ⟨none, [], false⟩ [.compound parts] n) b := by
    refine (hb _ ⟨rfl, fun _ => rfl⟩).bind ?_
    cases b <;> exact .of_pure _
  have hjudges : Selector.judges lib [.compound parts] n = b := hone .empty
  rw [hjudges]
  exact hb o ho

namespace Selector.IsSteady

lemma anyAccepts_yields {o : Origin} (h : s.isSteady (lib.dialect n.document) = true)
    (ho : Origin.IsLike (lib.dialect n.document) ⟨none, [], false⟩ o) :
    Yields (anyAccepts lib o s n) (s.judges lib n) := by
  obtain ⟨b, hb⟩ : Settled _ ⟨none, [], false⟩ fun o => anyAccepts lib o s n :=
    anyAccepts_settled s h _ n rfl
  have hjudges : s.judges lib n = b := hb _ ⟨rfl, fun _ => rfl⟩ .empty
  rw [hjudges]
  exact hb o ho

lemma select_eq (h : s.isSteady (lib.dialect n.document) = true) :
    select lib s n = (lib.descendantElements n).filter (s.judges lib) := by
  refine select_eq_filter fun m hm => ?_
  have hdoc : m.document = n.document := (Library.finds_descendantElements n m hm).1
  exact anyAccepts_yields (hdoc ▸ h) (isLike_prefixesAt _ hdoc)

lemma matchesNode_eq (h : s.isSteady (lib.dialect n.document) = true) :
    matchesNode lib s n = (lib.isElement n && s.judges lib n) :=
  congrArg (lib.isElement n && ·)
    (anyAccepts_yields h (o := ⟨scopeOf lib n, [], false⟩) ⟨rfl, fun _ => rfl⟩ .empty)

end Selector.IsSteady

end MarkupQuery.Css

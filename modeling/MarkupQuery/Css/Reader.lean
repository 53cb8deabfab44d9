import MarkupQuery.Css.Token
import MarkupQuery.Text.Blank

/-! From tokens to a selector. Open lists are kept on a stack of frames; the frame of the whole
selector lies at its bottom. -/

namespace MarkupQuery.Css

open Text

structure Link where
  combinator : Combinator
  mark : Nat

structure Frame where
  opening : Option Opening
  -- Whether the list is for HTML documents only.
  isHtml : Bool
  alternatives : List Complex
  relatives : List Relative
  -- The compounds before the current one, the latest first, each after its combinator.
  steps : List (Link × List Simple)
  -- The combinator before the current compound.
  link : Link
  -- The current compound, its latest part first.
  parts : List Simple

namespace Frame

def start (opening : Option Opening) (mark : Nat) : Frame :=
  ⟨opening, false, [], [], [], ⟨.descendant, mark⟩, []⟩

-- Where a list of selectors may have empty places.
def isForgiving (f : Frame) : Bool := f.opening == some (.group .anyOf)

def isRelative (f : Frame) : Bool := f.opening == some (.group .has)

def add (f : Frame) (s : Simple) : Frame := { f with parts := s :: f.parts }

def combine? (f : Frame) (l : Link) : Option Frame :=
  if f.parts.isEmpty then
    if f.isRelative && f.link.combinator == .descendant then some { f with link := l } else none
  else some { f with steps := (f.link, f.parts.reverse) :: f.steps, link := l, parts := [] }

def ordered (parts : List Simple) : List Simple :=
  [0, 1, 2, 3].flatMap fun rank => parts.filter fun s => s.rank == rank

def complexOf : List (Link × List Simple) → List Simple → Combinator → Complex
  | [], parts, _ => .compound (ordered parts)
  | (l, left) :: steps, parts, d => .combined (complexOf steps left l.combinator) d (ordered parts)

def relativeOf : List (Link × List Simple) → Relative → Relative
  | [], r => r
  | (l, parts) :: steps, r => relativeOf steps (.step l.mark l.combinator (ordered parts) r)

def reset (f : Frame) (mark : Nat) : Frame :=
  { f with steps := [], link := ⟨.descendant, mark⟩, parts := [] }

def finish (f : Frame) (mark : Nat) : Frame :=
  let parts := f.parts.reverse
  if f.isRelative then
    let last := Relative.last f.link.mark f.link.combinator (ordered parts)
    { f.reset mark with relatives := relativeOf f.steps last :: f.relatives }
  else
    let last := complexOf f.steps parts f.link.combinator
    { f.reset mark with alternatives := last :: f.alternatives }

def forgive (f : Frame) (mark : Nat) : Frame :=
  { f.reset mark with alternatives := .never :: f.alternatives }

def comma? (f : Frame) (mark : Nat) : Option Frame :=
  if !f.parts.isEmpty then some (f.finish mark)
  else if f.isForgiving then some (f.forgive mark)
  else none

def close? (f : Frame) (mark : Nat) : Option Frame :=
  if !f.parts.isEmpty then some (f.finish mark)
  else if f.isForgiving && (f.alternatives.isEmpty || f.steps.isEmpty) then some (f.forgive mark)
  else none

def simple? (f : Frame) : Option Simple :=
  let wrapped (s : Simple) : Simple := if f.isHtml then .inHtml [.compound [s]] else s
  match f.opening with
  | some (.group .anyOf) | some .strict => some (wrapped (.anyOf f.alternatives.reverse))
  | some (.group .noneOf) => some (wrapped (.noneOf f.alternatives.reverse))
  | some (.group .has) => some (wrapped (.has f.relatives.reverse))
  | some .nothing => some .nothing
  | some (.nth step offset fromEnd) =>
    some (wrapped (.nthOf step offset fromEnd f.alternatives.reverse))
  | none => none

def selector (f : Frame) : Selector :=
  if f.isHtml then [.compound [.inHtml f.alternatives.reverse]] else f.alternatives.reverse

end Frame

def assemble (isWhole : Bool) : List Token → Frame → List Frame → Except Refusal Selector
  | [], f, [] =>
    if !isWhole || f.parts.isEmpty then .error .malformed
    else .ok (f.finish 0).selector
  | [], _, _ :: _ => .error .malformed
  | .leading s :: ts, f, outer =>
    if !f.parts.isEmpty then .error .malformed
    else match s with
      | some s => assemble isWhole ts (f.add s) outer
      | none => .error .beyondCodes
  | .simple s :: ts, f, outer =>
    match s with
    | some s => assemble isWhole ts (f.add s) outer
    | none => .error .beyondCodes
  | .combinator c :: ts, f, outer =>
    match f.combine? ⟨c, ts.length⟩ with
    | some f => assemble isWhole ts f outer
    | none => .error .malformed
  | .comma :: ts, f, outer =>
    match f.comma? ts.length with
    | some f => assemble isWhole ts f outer
    | none => .error .malformed
  | .opening o :: ts, f, outer => assemble isWhole ts (.start (some o) ts.length) (f :: outer)
  | .onlyHtml :: ts, f, outer => assemble isWhole ts { f with isHtml := true } outer
  | .unsupported :: _, _, _ => .error .unsupported
  | .closing :: _, _, [] => .error .malformed
  | .closing :: ts, f, g :: outer =>
    match (f.close? ts.length).bind Frame.simple? with
    | some s => assemble isWhole ts (g.add s) outer
    | none => .error .malformed

def withoutNull (c : Char) : Char := if c.toNat = 0 then replacement else c

def Selector.ofText (text : String) : Except Refusal Selector :=
  let (ts, isWhole) := tokens (text.toList.map withoutNull)
  assemble isWhole ts (.start none ts.length) []

end MarkupQuery.Css

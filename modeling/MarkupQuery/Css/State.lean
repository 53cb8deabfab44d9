import MarkupQuery.Css.Range

namespace MarkupQuery.Css

open Markup Text

variable (lib : Library)

def isInput (n : Node) (types : List String) : Bool :=
  isNamed lib n ["input"] && types.any (attributeIs lib n "type")

def isInputOf (n : Node) (types : List String) : Bool :=
  isNamed lib n ["input"] && (!hasAttribute lib n "type" || types.any (attributeIs lib n "type"))

def isFilled (n : Node) (name : String) : Bool :=
  hasAttribute lib n name && !attributeIs lib n name ""

def isChecked (n : Node) : Bool :=
  isInput lib n ["checkbox", "radio"] && hasAttribute lib n "checked" ||
    isNamed lib n ["option"] && hasAttribute lib n "selected"

def elementsInside (n : Node) : List Node :=
  if isFrame lib n then []
  else (lib.descendantElements n).filter fun m =>
    (m.ancestors.takeWhile (· != n)).all fun a => !isFrame lib a

def isForm (n : Node) : Bool := isNamed lib n ["form"] && isHtmlElement lib n

def isSubmit (n : Node) : Bool :=
  isNamed lib n ["input", "button"] &&
    (attributeOf? lib n "type").any fun v => lowered v == "submit"

def isFirstSubmit (n : Node) : Bool :=
  match (inFrame lib n).find? (isForm lib) with
  | some form =>
    ((elementsInside lib form).takeWhile fun m => !isNamed lib m ["form"]).find? (isSubmit lib) ==
      some n
  | none => false

def isDefault (n : Node) : Bool :=
  isChecked lib n || isNamed lib n ["button", "input"] && attributeIs lib n "type" "submit" &&
    isFirstSubmit lib n

def formOf? (n : Node) : Option Node :=
  ((inFrame lib n).find? (isForm lib)).or (inFrame lib n).getLast?

def hasChecked (n : Node) (name : String) : Bool :=
  match formOf? lib n with
  | some form => (elementsInside lib form).any fun m =>
    m != n && isNamed lib m ["input"] &&
      (attributeOf? lib m "type").any (fun v => lowered v == "radio") &&
      attributeOf? lib m "name" == some name && hasAttribute lib m "checked" &&
      formOf? lib m == some form
  | none => false

def isIndeterminate (n : Node) : Bool :=
  let unchecked := isInput lib n ["radio"] && !hasAttribute lib n "checked"
  isInput lib n ["checkbox"] && hasAttribute lib n "indeterminate" ||
    isNamed lib n ["progress"] && !hasAttribute lib n "value" ||
    unchecked && (!isFilled lib n "name" ||
      (attributeOf? lib n "name").any fun name => !hasChecked lib n name)

def isField (n : Node) : Bool :=
  isNamed lib n ["button", "select", "textarea", "fieldset"] ||
    isNamed lib n ["input"] && !attributeIs lib n "type" "hidden"

def isControl (n : Node) : Bool := isField lib n || isNamed lib n ["optgroup", "option"]

def isDisabledAs (n : Node) (name : String) : Bool :=
  isHtmlElement lib n && isNamed lib n [name] && hasAttribute lib n "disabled"

def isInDisabledFields (n : Node) : Bool :=
  (inFrame lib n).any fun a =>
    isHtmlElement lib a && !(isNamed lib a ["legend"] && place lib a false true == 1) &&
      (inFrame lib a).head?.any fun p => isDisabledAs lib p "fieldset"

def isDisabled (n : Node) : Bool :=
  let parent? := (inFrame lib n).head?
  isControl lib n && hasAttribute lib n "disabled" ||
    isNamed lib n ["option"] && parent?.any (fun p => isDisabledAs lib p "optgroup") ||
    isField lib n &&
      (parent?.any (fun p => isDisabledAs lib p "fieldset") || isInDisabledFields lib n)

def hasText (n : Node) : Bool :=
  match lib.tree? n with
  | some t => !(["", "\n"].contains (textWithin (fun _ => false) t))
  | none => false

def isPlaceholderShown (n : Node) : Bool :=
  isFilled lib n "placeholder" &&
    (isInputOf lib n ["", "text", "search", "url", "tel", "email", "password", "number"] &&
        !isFilled lib n "value" ||
      isNamed lib n ["textarea"] && !hasText lib n)

def writableTypes : List String :=
  ["", "date", "datetime-local", "email", "month", "number", "password", "search", "tel", "text",
    "time", "url", "week"]

def isEditable (n : Node) : Bool :=
  match attributeOf? lib n "contenteditable" with
  | some content => ["", "true"].any fun value =>
    (⟨.any, "contenteditable", .equal, value, some true⟩ : AttributeTest).accepts
      (lib.dialect n.document) content
  | none => false

def isReadWrite (n : Node) : Bool :=
  (isNamed lib n ["textarea"] || isInputOf lib n writableTypes) &&
      !hasAttribute lib n "readonly" && !isDisabled lib n ||
    isEditable lib n

def hasBounds (n : Node) : Bool :=
  isInput lib n ["date", "month", "week", "time", "datetime-local", "number", "range"] &&
    (hasAttribute lib n "min" || hasAttribute lib n "max")

-- A hyphen marks the names that only programs define.
def isDefined (n : Node) : Bool :=
  match lib.name? n with
  | some name =>
    !name.toList.contains '-' || name.toList.contains ':' || (lib.space? n).isSome
  | none => false

def State.holdsAt (n : Node) : State → Bool
  | checked => isChecked lib n
  | default => isDefault lib n
  | defined => isDefined lib n
  | disabled => isDisabled lib n
  | enabled => isControl lib n && !isDisabled lib n
  | inRange => hasBounds lib n && isWithin? lib n == some true
  | indeterminate => isIndeterminate lib n
  | link => isNamed lib n ["a", "area"] && hasAttribute lib n "href"
  | muted => isNamed lib n ["video", "audio"] && hasAttribute lib n "muted"
  | .open => isNamed lib n ["details", "dialog"] && hasAttribute lib n "open"
  | optional => isNamed lib n ["input", "select", "textarea"] && !hasAttribute lib n "required"
  | outOfRange => hasBounds lib n && isWithin? lib n == some false
  | placeholderShown => isPlaceholderShown lib n
  | readOnly => !isReadWrite lib n
  | readWrite => isReadWrite lib n
  | required => isNamed lib n ["input", "select", "textarea"] && hasAttribute lib n "required"

-- Only elements of HTML are in a state; all elements of other namespaces are defined.
def isInState (n : Node) (s : State) : Bool :=
  if s == .defined then s.holdsAt lib n
  else isHtml lib n.document && isHtmlElement lib n && s.holdsAt lib n

end MarkupQuery.Css

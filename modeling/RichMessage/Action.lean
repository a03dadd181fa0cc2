import RichMessage.Json.Record

set_option autoImplicit false

namespace RichMessage

/-- A tap opens an address or sends a text; either may carry a label. -/
inductive Action where
  | uri (address : String) (label : Option String)
  | message (text : String) (label : Option String)
  deriving Repr, DecidableEq

namespace Action

/-- Opening the empty address, without a label. -/
instance : Inhabited Action := ⟨.uri "" none⟩

def label : Action → Option String
  | .uri _ label => label
  | .message _ label => label

/-- The same action under another label, or under none. -/
def relabel (action : Action) (label : Option String) : Action :=
  match action with
  | .uri address _ => .uri address label
  | .message text _ => .message text label

def withLabel (action : Action) (label : String) : Action :=
  action.relabel (some label)

def unlabelled (action : Action) : Action :=
  action.relabel none

@[simp] theorem label_relabel (action : Action) (label : Option String) :
    (action.relabel label).label = label := by
  cases action <;> rfl

@[simp] theorem relabel_relabel (action : Action) (first second : Option String) :
    (action.relabel first).relabel second = action.relabel second := by
  cases action <;> rfl

def toJson : Action → Json
  | .uri address label =>
    .obj ([("type", .str "uri"), ("uri", .str address)] ++ Json.optionalMember "label" .str label)
  | .message text label =>
    .obj ([("type", .str "message"), ("text", .str text)] ++
      Json.optionalMember "label" .str label)

def readUri? (fields : Written) : Option Action := do
  let fields ← fields.record? ["uri", "label"]
  let address ← Written.required? fields "uri" Written.str?
  let label ← Written.optional? fields "label" Written.str?
  return .uri address label

def readMessage? (fields : Written) : Option Action := do
  let fields ← fields.record? ["text", "label"]
  let text ← Written.required? fields "text" Written.str?
  let label ← Written.optional? fields "label" Written.str?
  return .message text label

def read? (strictness : Strictness) (w : Written) : Option Action :=
  (w.tagged? strictness ["uri", "message"]).bind fun (name, fields) =>
    if name = "uri" then readUri? fields else readMessage? fields

end Action

end RichMessage

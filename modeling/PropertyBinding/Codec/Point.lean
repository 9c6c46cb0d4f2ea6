import PropertyBinding.Codec.Standard

/-! # Points: the codec of a structure

A labelled point shows how a structure travels: written as an object, and read from
an object, whose other fields are ignored, or from the list of its fields in order.
An integer that does not like to be negative shows a type that cannot always be written.
-/
namespace PropertyBinding

open Json (Refusal)

/-- A point of the plane that may have a label. -/
structure Point where
  x : Int32 := 0
  y : Int32 := 0
  label : Option String := none
  deriving DecidableEq

namespace Point

/-- The fields of a point found so far. -/
structure Draft where
  x : Option Int32 := none
  y : Option Int32 := none
  label : Option String := none

/-- Read the fields of an object one by one. -/
def readFields (draft : Draft) : List (String × Json) → Except Refusal Draft
  | [] => .ok draft
  | (name, json) :: rest => do
    let draft ←
      match name with
      | "x" => (Codec.i32.decode json).map fun x => { draft with x := some x }
      | "y" => (Codec.i32.decode json).map fun y => { draft with y := some y }
      | "label" => (Codec.text.optional.decode json).map fun label => { draft with label }
      | _ => .ok draft
    readFields draft rest

/-- The point of a draft; its label may be missing. -/
def Draft.point (draft : Draft) : Except Refusal Point :=
  match draft.x, draft.y with
  | none, _ => .error (.missingField "x")
  | some _, none => .error (.missingField "y")
  | some x, some y => .ok { x, y, label := draft.label }

/-- Read a point from the list of its fields. -/
def readItems (items : List Json) : Except Refusal Point :=
  let short (length : Nat) : Refusal := .invalidLength length "struct Point with 3 elements"
  match items with
  | [] => .error (short 0)
  | x :: rest => do
    let x ← Codec.i32.decode x
    match rest with
    | [] => throw (short 1)
    | y :: rest =>
      let y ← Codec.i32.decode y
      match rest with
      | [] => throw (short 2)
      | label :: rest =>
        let label ← Codec.text.optional.decode label
        if rest.isEmpty then return { x, y, label } else throw (Codec.tooLong items)

/-- How a point travels. -/
def codec : Codec Point where
  encode point := do
    let x ← Codec.i32.encode point.x
    let y ← Codec.i32.encode point.y
    let label ← Codec.text.optional.encode point.label
    return .object [("label", label), ("x", x), ("y", y)]
  decode
    | .object fields => do
      let draft ← readFields {} fields
      draft.point
    | .array items => readItems items
    | json => .error (.ofJson json "struct Point")

end Point

/-- An integer that is read whatever it is, but not written while it is negative. -/
structure Grump where
  value : Int64 := 0
  deriving DecidableEq

/-- How a grump travels. -/
def Grump.codec : Codec Grump where
  encode grump :=
    if grump.value < 0 then .error s!"negative grump {grump.value.toInt}"
    else Codec.i64.encode grump.value
  decode json := (Codec.i64.decode json).map Grump.mk

end PropertyBinding

import SourceScan.Log.Event

/-!
# Log/Entry — events as a log holds them

A log holds an event as a line of text or as a JSON object, as its **format** asks.

* `Entry.compact` — severity, message and `key=value` fields, without the target.
* `Entry.pretty` — severity, target, message and `key: value` fields, with commas between them.
* `Entry.record` — an object of severity, target and fields, the message being the first of them.
-/

namespace SourceScan.Log

/-- **The formats** of a log. -/
inductive Format where
  | pretty
  | compact
  | json
deriving DecidableEq, Repr

/-- The name of a format. -/
def Format.name : Format → String
  | pretty => "pretty"
  | compact => "compact"
  | json => "json"

/-- All formats. -/
def Format.all : List Format := [.pretty, .compact, .json]

/-- **An entry of a log**: a line of text, or an object. -/
inductive Entry where
  | line (text : String)
  | object (json : Json)

namespace Entry

/-- The severity of an event, aligned to the right in five columns. -/
def label (event : Event) : String :=
  String.ofList (List.replicate (5 - event.severity.name.length) ' ') ++ event.severity.name

/-- **An event on a line**, without its target. -/
def compact (event : Event) : String :=
  event.fields.foldl (fun line field => line ++ " " ++ field.1 ++ "=" ++ field.2.plain)
    (label event ++ " " ++ event.message)

/-- **An event on a line**, with its target.  An entry leaves out what does not depend on the event:
the time, the location in the program, and the line ends the formatter puts inside and behind an
entry. -/
def pretty (event : Event) : String :=
  event.fields.foldl (fun line field => line ++ ", " ++ field.1 ++ ": " ++ field.2.plain)
    (label event ++ " " ++ event.target ++ ": " ++ event.message)

/-- **An event as an object.** -/
def record (event : Event) : Json :=
  .object [("level", .string event.severity.name), ("target", .string event.target),
    ("fields", .object (("message", .string event.message) ::
      event.fields.map fun field => (field.1, field.2.toJson)))]

/-- **The entry of an event** in a format. -/
def ofEvent (format : Format) (event : Event) : Entry :=
  match format with
  | .compact => .line (compact event)
  | .pretty => .line (pretty event)
  | .json => .object (record event)

end Entry

end SourceScan.Log

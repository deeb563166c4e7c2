import Router.Text.Quoted

namespace Router

/-! ## Diagnostic records

What matchers and navigators report about their own work. A record is kept as the
fact it reports; its line of text is made on demand. -/

inductive Record where
  /-- A matcher compiled a glob in place of another one. -/
  | recompiled (new old : String)
  /-- A navigator was sent to the path it was already at. -/
  | navigationIgnored (path : String) (debugging : Bool)
  /-- A navigator forgot its oldest paths to keep within its limit. -/
  | historyTrimmed (limit dropped : Nat)
  deriving DecidableEq, Repr

namespace Record

inductive Level where
  | debug
  | warning
  deriving DecidableEq, Repr

def Level.name : Level → String
  | .debug => "DEBUG"
  | .warning => "WARNING"

/-- An ignored navigation is worth a warning only to someone who is debugging. -/
def level : Record → Level
  | .navigationIgnored _ true => .warning
  | _ => .debug

/-- The channel on which the record appears. -/
def channel : Record → String
  | .recompiled _ _ => "wren.routing"
  | .navigationIgnored _ _ => "wren.navigation"
  | .historyTrimmed _ _ => "wren.navigation"

def text : Record → String
  | .recompiled new old =>
      "Recompiling route glob " ++ Text.quoted new ++ " (was " ++ Text.quoted old ++ ")"
  | .navigationIgnored path _ =>
      "Navigating to the current path " ++ Text.quoted path ++ " ignored"
  | .historyTrimmed limit dropped =>
      "History limit " ++ toString limit ++ " reached, dropped " ++ toString dropped ++
        " oldest entries"

def line (record : Record) : String :=
  record.level.name ++ " " ++ record.channel ++ ": " ++ record.text

example : (historyTrimmed 2 1).line =
    "DEBUG wren.navigation: History limit 2 reached, dropped 1 oldest entries" := by
  decide +kernel

end Record

end Router

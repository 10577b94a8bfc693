import GuestFlow.Journal
import GuestFlow.Value.Number
import GuestFlow.Value.Record

/-!
# Delays

A delay is configured with a duration and a unit.  The duration is any number, or five
if there is none, and a negative one counts as zero; an unknown unit is noted in the
journal and read as seconds.
-/

set_option autoImplicit false

namespace GuestFlow.Delay

/-- The duration where none is configured. -/
def usualDuration : Value := .int 5

/-- The units of time with their lengths in seconds. -/
def units : List (String × Int) := [("seconds", 1), ("minutes", 60), ("hours", 3600)]

/-- The length of a unit. -/
def unitLength? : Value → Option Int
  | .text name => units.lookup name
  | _ => none

/-- The configured unit, or seconds. -/
def unitName (config : Record) : Value :=
  let configured := config.field "unit"
  if configured.isTruthy then configured else .text "seconds"

/-- The length of the configured unit; an unknown one is as long as a second. -/
def unitSeconds (config : Record) : Logged Int :=
  let name := unitName config
  match name.asKey with
  | .error fault => ([], .error fault)
  | .ok _ =>
    match unitLength? name with
    | some length => ([], .ok length)
    | none =>
      match name.text? with
      | .error fault => ([], .error fault)
      | .ok text => ([.warning ("Unknown delay unit '" ++ text ++ "', using seconds")], .ok 1)

/-- A number, or zero where it is below zero. -/
def atLeastZero (number : Binary64) : Binary64 :=
  let none := Binary64.zero false
  if number.less none then none else number

/-- The configured duration as a number. -/
def duration (config : Record) : Except Fault Binary64 :=
  match config.field "duration" with
  | .null => usualDuration.toNumber
  | value => value.toNumber

/-- The configured delay in seconds. -/
def seconds (config : Record) : Logged Binary64 :=
  match unitSeconds config with
  | (journal, .error fault) => (journal, .error fault)
  | (journal, .ok length) =>
    (journal, (duration config).map fun number =>
      (atLeastZero number).multiply (Binary64.ofInt length))

end GuestFlow.Delay

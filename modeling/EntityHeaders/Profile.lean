import EntityHeaders.Fault

/-! # Profiles

A profile settles what a record and its headers leave open: how dates are written,
what stands for a date that cannot be read, and where that is noted.  An unreadable
date may also stand for no timestamp at all.  The default profile writes HTTP dates
and takes an unreadable one for the start of 1970, that is, for long past.

* `DateFormat` — a way to write and read timestamps.
* `Note` — the record of a date that could not be read.
* `Profile.readExpires` — the meaning of an `Expires` value.
-/

namespace EntityHeaders

open Calendar (Timestamp)

/-! ## Date formats -/

/-- Why a date format does not read a text.  A rejected text is no date; any other
failure is the format's own. -/
inductive DateFormat.Failure where
  | rejected (reason : String)
  | broken (breakdown : Breakdown)
deriving DecidableEq, Repr

/-- A way to write timestamps and to read them, which may break down in either
direction.  A text may also stand for no timestamp. -/
structure DateFormat where
  write : Timestamp → Except Breakdown String
  read : String → Except DateFormat.Failure (Option Timestamp)

def DateFormat.http : DateFormat where
  write t := .ok (String.ofList (HttpDate.format t))
  read text :=
    match HttpDate.parse text.toList with
    | .ok t => .ok (some t)
    | .error fault => .error (.rejected fault.message)

theorem DateFormat.write_http (t : Timestamp) :
    http.write t = .ok (String.ofList (HttpDate.format t)) :=
  rfl

/-! ## Notes -/

/-- A note about an unreadable date: where it is kept, the value, and the reason. -/
structure Note where
  channel : String
  value : String
  reason : String
deriving DecidableEq, Repr

namespace Note

def level : String := "DEBUG"

def message (note : Note) : String :=
  "Invalid Expires header (" ++ note.value ++ "); should be in RFC-1123 format; " ++
    "treating as already expired: " ++ note.reason

end Note

/-! ## Profiles -/

def defaultChannel : String := "cirrus_io.codec"

/-- How dates are handled: their format, what an unreadable one gives, and the
channel for notes by its name or as it is given. -/
structure Profile where
  dates : DateFormat := .http
  unreadable : Option Timestamp := some .epoch
  channelName : String := defaultChannel
  channel : Option String := none

namespace Profile

/-- The channel that takes the notes: the given one, or the one of the given name. -/
def noteChannel (profile : Profile) : String :=
  let name := profile.channel.getD profile.channelName
  -- the channel without a name is the root of all
  if name = "" then "root" else name

/-- The timestamp that an `Expires` value gives, and the notes that it leaves. -/
def readExpires (profile : Profile) (value : String) :
    Except Fault (Option Timestamp × List Note) :=
  match profile.dates.read value with
  | .ok timestamp => .ok (timestamp, [])
  -- a text that is no date at all is the only failure that is passed over
  | .error (.rejected reason) =>
    .ok (profile.unreadable, [{ channel := profile.noteChannel, value, reason }])
  | .error (.broken breakdown) => .error (.breakdown breakdown)

/-- The same for a value that may be absent and then gives no timestamp. -/
def readExpires? (profile : Profile) :
    Option String → Except Fault (Option Timestamp × List Note)
  | some value => profile.readExpires value
  | none => .ok (none, [])

end Profile

end EntityHeaders

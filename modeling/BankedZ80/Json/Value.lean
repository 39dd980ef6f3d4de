import BankedZ80.Json.Token

/-!
# JSON values

A value is read from tokens by an automaton with a stack of the containers that are open, so that a
text may nest to any depth. `Json.parse?` accepts exactly one value with nothing but blanks around
it. Members of an object keep their order, and a key may occur more than once: whoever decodes the
object decides about that.
-/

namespace BankedZ80

/-- A JSON value. Numbers and strings are kept as in `Json.Token`. -/
inductive Json where
  | null
  | bool (value : Bool)
  | number (natural : Option Nat)
  | string (text : Option String)
  | array (items : List Json)
  | object (members : List (Option String × Json))
deriving Repr

namespace Json

/-- A container that is open, its contents so far latest first. -/
inductive OpenContainer where
  | array (items : List Json)
  | object (members : List (Option String × Json))
  /-- An object in which a key waits for its value. -/
  | member (members : List (Option String × Json)) (key : Option String)
deriving Repr

/-- What may come next inside the innermost open container. -/
inductive Expected where
  | value
  | valueOrClose
  | key
  | keyOrClose
  | colon
  | commaOrClose
deriving DecidableEq, Repr

/-- How far a value has been read. -/
inductive Progress where
  | reading (containers : List OpenContainer) (expected : Expected)
  | finished (value : Json)
deriving Repr

/-- Hand a finished value to the innermost open container. -/
def deliver (v : Json) : List OpenContainer → Option Progress
  | [] => some (.finished v)
  | .array items :: outer => some (.reading (.array (v :: items) :: outer) .commaOrClose)
  | .member members key :: outer =>
    some (.reading (.object ((key, v) :: members) :: outer) .commaOrClose)
  | .object _ :: _ => none

/-- Close the innermost open container by the token that is there for it. -/
def close (token : Token) : List OpenContainer → Option Progress
  | .array items :: outer =>
    if token = .closeArray then deliver (.array items.reverse) outer else none
  | .object members :: outer =>
    if token = .closeObject then deliver (.object members.reverse) outer else none
  | _ => none

/-- Begin a value with a token. -/
def begin? (containers : List OpenContainer) : Token → Option Progress
  | .null => deliver .null containers
  | .bool b => deliver (.bool b) containers
  | .number n => deliver (.number n) containers
  | .string s => deliver (.string s) containers
  | .openArray => some (.reading (.array [] :: containers) .valueOrClose)
  | .openObject => some (.reading (.object [] :: containers) .keyOrClose)
  | _ => none

/-- Take a key of the innermost open object. -/
def takeKey (token : Token) : List OpenContainer → Option Progress
  | .object members :: outer =>
    match token with
    | .string key => some (.reading (.member members key :: outer) .colon)
    | _ => none
  | _ => none

/-- Go on after a comma: to a key in an object, to a value in an array. -/
def afterComma : List OpenContainer → Option Progress
  | .array items :: outer => some (.reading (.array items :: outer) .value)
  | .object members :: outer => some (.reading (.object members :: outer) .key)
  | _ => none

/-- Take one token. -/
def Progress.take (p : Progress) (token : Token) : Option Progress :=
  match p with
  | .finished _ => none
  | .reading containers .value => begin? containers token
  | .reading containers .valueOrClose =>
    if token = .closeArray then close token containers else begin? containers token
  | .reading containers .key => takeKey token containers
  | .reading containers .keyOrClose =>
    if token = .closeObject then close token containers else takeKey token containers
  | .reading containers .colon =>
    if token = .colon then some (.reading containers .value) else none
  | .reading containers .commaOrClose =>
    if token = .comma then afterComma containers else close token containers

/-- The value that tokens write. -/
def ofTokens? (tokens : List Token) : Option Json :=
  match tokens.foldlM Progress.take (.reading [] .value) with
  | some (.finished v) => some v
  | _ => none

/-- The value that a text writes. -/
def parse? (text : List UInt8) : Option Json := do ofTokens? (← Token.all? text)

end Json

end BankedZ80

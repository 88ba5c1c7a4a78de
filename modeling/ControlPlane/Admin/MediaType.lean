/-!
# Media types

Whether the content type of a request announces JSON.  The type has to be
`application`, and either the subtype up to the last plus sign or the suffix
after it has to be `json`, in any case.  Parameters may follow; they are
checked for their form only.
-/

namespace ControlPlane.Admin

/-- May the character stand in a name? -/
def isToken (c : Char) : Bool := c.isAlphanum || "!#$%&'*+-.^_`|~".toList.contains c

/-- May the character stand between quotes? -/
def isQuotable (c : Char) : Bool := ' ' ≤ c && c ≤ '~'

/-- The places of a text of parameters, each with whether something of the
current name or value has been read. -/
inductive ParameterState
  /-- Before a name, or inside it. -/
  | name (started : Bool)
  /-- Before a value without quotes, or inside it. -/
  | value (started : Bool)
  /-- Inside a quoted value. -/
  | quoted (started : Bool)
  /-- After a quoted value. -/
  | after
  deriving DecidableEq, Repr

/-- The next place, unless the character may not stand there. -/
def ParameterState.next : ParameterState → Char → Option ParameterState
  | .name started, c =>
    if c = ' ' ∧ !started then some (.name false)
    else if isToken c then some (.name true)
    else if c = '=' ∧ started then some (.value false)
    else none
  | .value started, c =>
    if c = '"' ∧ !started then some (.quoted false)
    else if isToken c then some (.value true)
    else if c = ';' ∧ started then some (.name false)
    else none
  | .quoted started, c =>
    if c = '"' ∧ started then some .after
    else if isQuotable c then some (.quoted true)
    else none
  | .after, c =>
    if c = ';' then some (.name false) else if c = ' ' then some .after else none

/-- May the text of parameters end here? -/
def ParameterState.isFinal : ParameterState → Bool
  | .name started => !started
  | .value _ | .after => true
  | .quoted _ => false

/-- Are these parameters, as they stand behind a semicolon? -/
def areParameters (cs : List Char) : Bool :=
  (cs.foldlM ParameterState.next (.name false)).any ParameterState.isFinal

/-- A text in lower case. -/
def lower (cs : List Char) : String := String.ofList (cs.map Char.toLower)

/-- Is the subtype JSON, or another format written in JSON? -/
def isJsonSubtype (cs : List Char) : Bool :=
  match cs with
  | [] => false
  | c :: rest =>
    -- A plus sign at the start of the subtype sets no suffix off.
    let suffix := (rest.reverse.takeWhile (· != '+')).reverse
    if suffix.length = rest.length then lower cs == "json"
    else
      lower (c :: rest.take (rest.length - suffix.length - 1)) == "json" ||
        lower suffix == "json"

/-- Does the content type announce JSON? -/
def isJson (contentType : String) : Bool :=
  let cs := contentType.toList
  let (type, rest) := (cs.takeWhile (· != '/'), (cs.dropWhile (· != '/')).drop 1)
  let (subtype, parameters) := (rest.takeWhile (· != ';'), rest.dropWhile (· != ';'))
  type.all isToken && lower type == "application" &&
    subtype.all isToken && isJsonSubtype subtype && areParameters (parameters.drop 1)

end ControlPlane.Admin

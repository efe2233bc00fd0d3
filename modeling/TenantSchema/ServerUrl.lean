import TenantSchema.Text.Integer
import TenantSchema.Text.Utf8
import TenantSchema.Text.Word

/-!
# URLs of database servers

A URL names a dialect, perhaps with a driver, and tells where the server is and which database
to use.  Texts in it are percent-encoded; its query is form data.  Pointing a URL at a catalog
replaces the database.
-/

namespace TenantSchema

/-- The values of a key of a query: one, or several when the key was repeated. -/
inductive QueryValue where
  | one (value : Text)
  | several (values : List Text)
  deriving Repr, DecidableEq

/-- The URL of a database server. -/
structure ServerUrl where
  dialect : Text
  user : Option Text
  password : Option Text
  host : Option Text
  port : Option Int
  database : Option Text
  query : List (Text × QueryValue)
  deriving Repr, DecidableEq

/-- Why a text is not the URL of a server. -/
inductive UrlError where
  | noUrl
  | invalidPort (fault : Text.IntegerFault)
  deriving Repr, DecidableEq

/-- The wording of an error. -/
def UrlError.message : UrlError → String
  | .noUrl =>
      "Could not parse SQLAlchemy URL from given URL string"
  | .invalidPort fault =>
      fault.message

/-- The values of a key as a list. -/
def QueryValue.toList : QueryValue → List Text
  | .one value =>
      [value]
  | .several values =>
      values

namespace ServerUrl

/-- Whether a byte stands for itself in every encoded text. -/
def isPlainByte (byte : UInt8) : Bool :=
  byte < 128 &&
    (let character := Char.ofNat byte.toNat
    character.isAlphanum || character == '_' || character == '.' || character == '-' ||
      character == '~')

/-- One capital digit of base sixteen. -/
def capitalHexDigit (value : Nat) : Char :=
  (Text.hexDigit value).toUpper

/-- Percent-encode a text, except for the characters in `kept`. -/
def encode (kept : Text) (text : Text) : Text :=
  (Text.Utf8.encode text).flatMap fun byte =>
    if isPlainByte byte || (byte < 128 && kept.elem (Char.ofNat byte.toNat)) then
      [Char.ofNat byte.toNat]
    else
      ['%', capitalHexDigit (byte.toNat / 16), capitalHexDigit (byte.toNat % 16)]

/-- Encode a text as form data: a space becomes a plus. -/
def encodeForm (text : Text) : Text :=
  (encode [' '] text).map fun character => if character = ' ' then '+' else character

/-- The bytes of a text, with percent-encoded ones decoded; a lone percent sign is kept. -/
def unescape : Text → List UInt8
  | [] =>
      []
  | '%' :: high :: low :: rest =>
      match Text.hexValue? high, Text.hexValue? low with
      | some high, some low =>
          UInt8.ofNat (high * 16 + low) :: unescape rest
      | _, _ =>
          Text.Utf8.encode ['%'] ++ unescape (high :: low :: rest)
  | character :: rest =>
      Text.Utf8.encode [character] ++ unescape rest

/-- The character that stands for bytes that are not the encoding of any. -/
def replacement : Char :=
  '\ufffd'

/-- Decode bytes, with every faulty sequence replaced.  The fuel is their count. -/
def decodeLossy : Nat → List UInt8 → Text
  | 0, _ =>
      []
  | fuel + 1, bytes =>
      match Text.Utf8.decode? bytes with
      | .ok text =>
          text
      | .error fault =>
          let before :=
            match Text.Utf8.decode? (bytes.take fault.position) with
            | .ok text =>
                text
            | .error _ =>
                []
          before ++ replacement ::
            decodeLossy fuel (bytes.drop (fault.position + fault.bytes.length))

/-- Split a text into maximal runs of characters inside and outside the seven-bit range. -/
def runs : Text → List Text
  | [] =>
      []
  | character :: rest =>
      match runs rest with
      | (next :: others) :: more =>
          if (character.toNat < 128) = (next.toNat < 128) then
            (character :: next :: others) :: more
          else
            [character] :: (next :: others) :: more
      | other =>
          [character] :: other

/-- Decode percent-encoded bytes; a sequence of them does not reach beyond the seven-bit
range. -/
def decode (text : Text) : Text :=
  (runs text).flatMap fun run =>
    let bytes := unescape run
    decodeLossy (bytes.length + 1) bytes

/-- Decode form data: a plus is a space. -/
def decodeForm (text : Text) : Text :=
  decode (text.map fun character => if character = '+' then ' ' else character)

/-- Add a value to a key of a query. -/
def addQuery (key value : Text) : List (Text × QueryValue) → List (Text × QueryValue)
  | [] =>
      [(key, .one value)]
  | (other, known) :: rest =>
      if other = key then
        (other, .several (known.toList ++ [value])) :: rest
      else
        (other, known) :: addQuery key value rest

/-- The keys and values of form data; a key without a value is dropped. -/
def parseQuery (text : Text) : List (Text × QueryValue) :=
  (Text.splitAt '&' text).foldl
    (fun query part =>
      match part.dropWhile (· != '=') with
      | _ :: first :: others =>
          addQuery (decodeForm (part.takeWhile (· != '=')))
            (decodeForm (first :: others)) query
      | _ =>
          query)
    []

/-- Whether a character may stand in the name of a dialect. -/
def isDialectCharacter (character : Char) : Bool :=
  Text.isWord character || character == '+'

/-- Who logs in: a user, perhaps with a password, and what follows the sign after them. -/
structure Login where
  user : Text
  password : Option Text
  rest : Text

/--
The login at the start of a text whose user has at most the given length, the longest one
first.  A password follows a colon and ends at the next at sign.
-/
def login? (text : Text) : Nat → Option Login
  | 0 =>
      loginWith? text 0
  | length + 1 =>
      match loginWith? text (length + 1) with
      | some login =>
          some login
      | none =>
          login? text length
where
  /-- The login whose user has the given length. -/
  loginWith? (text : Text) (length : Nat) : Option Login :=
    match text.drop length with
    | ':' :: after =>
        match after.dropWhile (· != '@') with
        | '@' :: rest =>
            some ⟨text.take length, some (after.takeWhile (· != '@')), rest⟩
        | _ =>
            none
    | '@' :: rest =>
        some ⟨text.take length, none, rest⟩
    | _ =>
        none

/-- Whether a character may stand in the name of a user. -/
def isUserCharacter (character : Char) : Bool :=
  character != ':' && character != '/'

/-- Whether a character may stand in the name of a host. -/
def isHostCharacter (character : Char) : Bool :=
  character != '/' && character != ':' && character != '?'

/-- Whether a character may stand in a port or between the brackets of a host. -/
def isPortCharacter (character : Char) : Bool :=
  character != '/' && character != '?'

/-- The part of a text before the last closing bracket, when it is not empty. -/
def beforeLastBracket? (text : Text) : Option Text :=
  match text.reverse.dropWhile (· != ']') with
  | _ :: first :: others =>
      some (first :: others).reverse
  | _ =>
      none

/-- The host at the start of a text and what follows it. -/
def takeHost (text : Text) : Option Text × Text :=
  let bracketed :=
    match text with
    | '[' :: inside =>
        beforeLastBracket? (inside.takeWhile isPortCharacter)
    | _ =>
        none
  match bracketed with
  | some host =>
      (some host, text.drop (host.length + 2))
  | none =>
      match text.takeWhile isHostCharacter with
      | [] =>
          (none, text)
      | first :: others =>
          (some (first :: others), text.dropWhile isHostCharacter)

/-- A part after a mark, up to the characters that end it, and what follows. -/
def takePart (mark : Char) (belongs : Char → Bool) (text : Text) : Option Text × Text :=
  match text with
  | [] =>
      (none, [])
  | first :: rest =>
      if first = mark then
        (some (rest.takeWhile belongs), rest.dropWhile belongs)
      else
        (none, text)

/-- The URL that a text starts with. -/
def parse (text : Text) : Except UrlError ServerUrl :=
  let dialect := text.takeWhile isDialectCharacter
  match dialect, Text.dropLead? "://".toList (text.dropWhile isDialectCharacter) with
  | [], _ | _, none =>
      .error .noUrl
  | _, some location =>
      let login := login? location (location.takeWhile isUserCharacter).length
      let (host, afterHost) := takeHost (login.elim location (·.rest))
      let (port, afterPort) := takePart ':' isPortCharacter afterHost
      let (database, afterDatabase) := takePart '/' (· != '?') afterPort
      let (query, _) := takePart '?' (· != '\n') afterDatabase
      let url (port : Option Int) : ServerUrl := {
        dialect := dialect
        user := login.map fun login => decode login.user
        password := (login.bind (·.password)).map decode
        host := host
        port := port
        database := database.map decode
        query := (query.map parseQuery).getD []
      }
      match port with
      | none =>
          .ok (url none)
      | some port =>
          match Text.readInteger 10 port with
          | .ok number =>
              .ok (url (some number))
          | .error fault =>
              .error (.invalidPort fault)

/-- Point a URL at a catalog; no catalog, or an empty name, keeps the database. -/
def withCatalog (url : ServerUrl) (catalog : Option Text) : ServerUrl :=
  match catalog with
  | some (first :: others) =>
      { url with database := some (first :: others) }
  | _ =>
      url

/-- The dialect without the driver. -/
def backend (url : ServerUrl) : Text :=
  url.dialect.takeWhile (· != '+')

/-- What a password is shown as when it is not to be seen. -/
def mask : Text :=
  ['*', '*', '*']

/-- Whether one text stands before another in the order of code points. -/
def precedes : Text → Text → Bool
  | [], _ =>
      true
  | _ :: _, [] =>
      false
  | left :: lefts, right :: rights =>
      left < right || (left == right && precedes lefts rights)

/-- The query of a URL, its keys in order. -/
def renderQuery (query : List (Text × QueryValue)) : Text :=
  let ordered := query.mergeSort fun left right => precedes left.1 right.1
  Text.joinWith ['&'] <|
    ordered.flatMap fun (key, value) =>
      value.toList.map fun element => encodeForm key ++ '=' :: encodeForm element

/-- The text of a URL, with the password seen or not. -/
def render (showPassword : Bool) (url : ServerUrl) : Text :=
  let encodePart := encode [' ', '+']
  let password :=
    url.password.elim [] fun password =>
      ':' :: (if showPassword then encodePart password else mask)
  let login := url.user.elim [] fun user => encodePart user ++ password ++ ['@']
  let host :=
    url.host.elim [] fun host =>
      if host.elem ':' then '[' :: host ++ [']'] else host
  let port := url.port.elim [] fun port => ':' :: (toString port).toList
  let database := url.database.elim [] fun database => '/' :: encode [' ', '+', '/'] database
  let query := if url.query.isEmpty then [] else '?' :: renderQuery url.query
  url.dialect ++ "://".toList ++ login ++ host ++ port ++ database ++ query

end ServerUrl

end TenantSchema

import SqlMapper.Database.Characters
import SqlMapper.Database.Token
import SqlMapper.Database.RealText

/-!
# JSON in stored text

JSON text is read into a tree that keeps numbers and strings as written, so
that writing the tree back gives the text without its blanks. Blanks are
space, tab, line feed and carriage return; strings may not hold control
characters and escape only `"`, `\`, `/`, `b`, `f`, `n`, `r`, `t` and
`u` with four hexadecimal digits; numbers have no leading zeros; nesting
stops at 2000 levels. Objects keep duplicate keys, and a key is looked up by
its first occurrence.

A path starts with `$` and goes on with steps: `.key` or `."key"` into an
object, `[N]` into an array, `[#-N]` counting from its end. A path is read
only as far as the walk goes, so an error in a step after a missing member is
never seen.

An edit puts SQL values into the tree, written as JSON only when the tree is
written: `NULL` as `null`, numbers as their text, text as a string unless it
is itself JSON; a blob cannot be written.
-/

namespace SqlMapper.Database

/-- A JSON value as read, or a SQL value an edit put in. -/
inductive JsonNode where
  | null
  | bool (b : Bool)
  /-- A number as written, and whether it has a point or an exponent. -/
  | number (text : List UInt8) (real : Bool)
  /-- A string, as written between its quotes. -/
  | string (raw : List UInt8)
  | array (items : List JsonNode)
  /-- An object: keys as written between their quotes, with their values. -/
  | object (members : List (List UInt8 × JsonNode))
  /-- A SQL value an edit put in, and whether it is itself JSON text. -/
  | edited (value : Datum) (json : Bool)
  deriving Inhabited

/-- JSON blanks. -/
def isJsonSpace (b : UInt8) : Bool := b == 32 || b == 9 || b == 10 || b == 13

/-- Whether a byte is a hexadecimal digit. -/
def isHexByte (b : UInt8) : Bool :=
  isDigitByte b || (97 ≤ b && b ≤ 102) || (65 ≤ b && b ≤ 70)

/-- The value of a hexadecimal digit. -/
def hexByteValue (b : UInt8) : Nat :=
  if isDigitByte b then b.toNat - 48 else if b ≥ 97 then b.toNat - 87 else b.toNat - 55

/-- Whether a byte is an ASCII letter or digit. -/
def isAlnumByte (b : UInt8) : Bool := isDigitByte b || (97 ≤ b && b ≤ 122) || (65 ≤ b && b ≤ 90)

/-- Reads the body of a string after its opening quote: the raw bytes and the rest after the closing quote. -/
def readJsonString (bs : List UInt8) : Option (List UInt8 × List UInt8) :=
  let rec go : Nat → List UInt8 → List UInt8 → Option (List UInt8 × List UInt8)
    | 0, _, _ => none
    | fuel + 1, acc, bs =>
      match bs with
      | [] => none
      | 34 :: rest => some (acc.reverse, rest)
      | 92 :: c :: rest =>
        if c == 34 || c == 92 || c == 47 || c == 98 || c == 102 || c == 110 || c == 114 || c == 116 then
          go fuel (c :: 92 :: acc) rest
        else if c == 117 && (rest.take 4).length == 4 && (rest.take 4).all isHexByte then
          go fuel (c :: 92 :: acc) rest
        else none
      | b :: rest => if b < 32 then none else go fuel (b :: acc) rest
  go (bs.length + 1) [] bs

/-- Reads a number: the bytes it takes, whether it is real, and the rest. -/
def readJsonNumber (bs : List UInt8) : Option (List UInt8 × Bool × List UInt8) :=
  let (sign, body) : List UInt8 × List UInt8 := match bs with
    | 45 :: r => ([45], r)
    | r => ([], r)
  let whole := body.takeWhile isDigitByte
  if whole.isEmpty then none
  else if whole.length > 1 && whole.head? == some 48 then none
  else
    let rest := body.drop whole.length
    let (frac, rest, ok1) := match rest with
      | 46 :: r =>
        let ds := r.takeWhile isDigitByte
        (46 :: ds, r.drop ds.length, !ds.isEmpty)
      | r => ([], r, true)
    if !ok1 then none else
    let (expo, rest, ok2) := match rest with
      | e :: r =>
        if e == 101 || e == 69 then
          let (s, r) : List UInt8 × List UInt8 := match r with
            | 43 :: r2 => ([43], r2)
            | 45 :: r2 => ([45], r2)
            | r2 => ([], r2)
          let ds := r.takeWhile isDigitByte
          (e :: s ++ ds, r.drop ds.length, !ds.isEmpty)
        else ([], rest, true)
      | [] => ([], [], true)
    if !ok2 then none
    else some (sign ++ whole ++ frac ++ expo, !frac.isEmpty || !expo.isEmpty, rest)

/-- What reading a value met: a value, or a closing bracket where a value
could start (so that empty containers close), or nothing readable. -/
inductive JsonRead where
  | value (node : JsonNode) (rest : List UInt8)
  | closeObject (rest : List UInt8)
  | closeArray (rest : List UInt8)
  | bad

mutual

/-- Reads one value after blanks, `depth` levels deep. -/
def readJsonValue : Nat → Nat → List UInt8 → JsonRead
  | 0, _, _ => .bad
  | fuel + 1, depth, bs =>
    let bs := bs.dropWhile isJsonSpace
    match bs with
    | [] => .bad
    | 123 :: rest => if depth ≥ 2000 then .bad else readJsonMembers fuel (depth + 1) [] rest
    | 91 :: rest => if depth ≥ 2000 then .bad else readJsonItems fuel (depth + 1) [] rest
    | 125 :: rest => .closeObject rest
    | 93 :: rest => .closeArray rest
    | 34 :: rest => match readJsonString rest with
      | some (raw, rest) => .value (.string raw) rest
      | none => .bad
    | b :: _ =>
      let word := fun (w : String) (n : JsonNode) =>
        let ws := utf8 w
        if bs.take ws.length == ws && !((bs.drop ws.length).head?.map isAlnumByte).getD false then
          JsonRead.value n (bs.drop ws.length)
        else .bad
      if b == 110 then word "null" .null
      else if b == 116 then word "true" (.bool true)
      else if b == 102 then word "false" (.bool false)
      else if b == 45 || isDigitByte b then
        match readJsonNumber bs with
        | some (text, real, rest) => .value (.number text real) rest
        | none => .bad
      else .bad

/-- Reads the members of an object after `{`. -/
def readJsonMembers : Nat → Nat → List (List UInt8 × JsonNode) → List UInt8 → JsonRead
  | 0, _, _, _ => .bad
  | fuel + 1, depth, acc, bs =>
    match readJsonValue fuel depth bs with
    | .closeObject rest => if acc.isEmpty then .value (.object []) rest else .bad
    | .value (.string key) rest =>
      match rest.dropWhile isJsonSpace with
      | 58 :: rest =>
        match readJsonValue fuel depth rest with
        | .value v rest =>
          match rest.dropWhile isJsonSpace with
          | 44 :: rest => readJsonMembers fuel depth ((key, v) :: acc) rest
          | 125 :: rest => .value (.object ((key, v) :: acc).reverse) rest
          | _ => .bad
        | _ => .bad
      | _ => .bad
    | _ => .bad

/-- Reads the items of an array after `[`. -/
def readJsonItems : Nat → Nat → List JsonNode → List UInt8 → JsonRead
  | 0, _, _, _ => .bad
  | fuel + 1, depth, acc, bs =>
    match readJsonValue fuel depth bs with
    | .closeArray rest => if acc.isEmpty then .value (.array []) rest else .bad
    | .value v rest =>
      match rest.dropWhile isJsonSpace with
      | 44 :: rest => readJsonItems fuel depth (v :: acc) rest
      | 93 :: rest => .value (.array (v :: acc).reverse) rest
      | _ => .bad
    | _ => .bad

end

/-- Reads JSON text, C-string text up to its first NUL; none when it is malformed. -/
def JsonNode.parse? (bs : List UInt8) : Option JsonNode :=
  let bs := cString bs
  match readJsonValue (2 * bs.length + 2) 0 bs with
  | .value v rest => if (rest.dropWhile isJsonSpace).isEmpty then some v else none
  | _ => none

/-- The fault of text that is not JSON. -/
def malformedJson : Fault := operational "malformed JSON"

/-- The fault of a blob where JSON is written. -/
def blobInJson : Fault := operational "JSON cannot hold BLOB values"

/-- Text as the body of a JSON string: quotes and backslashes escaped,
control characters by their short escapes or as `\u00XX`. -/
def escapeJsonBytes (bs : List UInt8) : List UInt8 :=
  bs.flatMap fun c =>
    if c == 34 || c == 92 then [92, c]
    else if c == 8 then [92, 98]
    else if c == 9 then [92, 116]
    else if c == 10 then [92, 110]
    else if c == 12 then [92, 102]
    else if c == 13 then [92, 114]
    else if c < 32 then
      let low := c.toNat % 16
      [92, 117, 48, 48, (48 + c.toNat / 16).toUInt8, (if low < 10 then 48 + low else 87 + low).toUInt8]
    else [c]

/-- A SQL value written as JSON. -/
def jsonOfValue (d : Datum) (json : Bool) : Except Fault (List UInt8) :=
  match d with
  | .null => pure (utf8 "null")
  | .integer n => pure (utf8 (toString n))
  | .real x => pure (utf8 (realText x))
  | .text bs => pure (if json then bs else 34 :: escapeJsonBytes bs ++ [34])
  | .blob _ => throw blobInJson

/-- Joins byte lists with commas. -/
def joinCommas (parts : List (List UInt8)) : List UInt8 :=
  match parts with
  | [] => []
  | p :: rest => p ++ rest.flatMap (44 :: ·)

mutual

/-- Writes a tree as JSON text without blanks. -/
def JsonNode.render : JsonNode → Except Fault (List UInt8)
  | .null => pure (utf8 "null")
  | .bool b => pure (utf8 (if b then "true" else "false"))
  | .number t _ => pure t
  | .string raw => pure (34 :: raw ++ [34])
  | .array items => do pure (91 :: joinCommas (← renderItems items) ++ [93])
  | .object members => do pure (123 :: joinCommas (← renderMembers members) ++ [125])
  | .edited d json => jsonOfValue d json

/-- Writes the items of an array. -/
def renderItems : List JsonNode → Except Fault (List (List UInt8))
  | [] => pure []
  | x :: rest => do
    let head ← x.render
    pure (head :: (← renderItems rest))

/-- Writes the members of an object. -/
def renderMembers : List (List UInt8 × JsonNode) → Except Fault (List (List UInt8))
  | [] => pure []
  | (k, v) :: rest => do
    let body ← v.render
    pure ((34 :: k ++ [34, 58] ++ body) :: (← renderMembers rest))

end

/-- Decodes the escapes of a string as written; `\u0000` ends it. -/
def unescapeJson (raw : List UInt8) : List UInt8 :=
  let hex4 := fun (bs : List UInt8) => (bs.take 4).foldl (fun n b => n * 16 + hexByteValue b) 0
  let rec go : Nat → List UInt8 → List UInt8 → List UInt8
    | 0, acc, _ => acc.reverse
    | fuel + 1, acc, bs =>
      match bs with
      | [] => acc.reverse
      | 92 :: c :: rest =>
        if c == 117 then
          let v := hex4 rest
          let rest := rest.drop 4
          if v == 0 then acc.reverse
          else if v ≤ 0x7F then go fuel (v.toUInt8 :: acc) rest
          else if v ≤ 0x7FF then go fuel ((0x80 + v % 64).toUInt8 :: (0xC0 + v / 64).toUInt8 :: acc) rest
          else
            let pair := match rest with
              | 92 :: 117 :: r =>
                let lo := hex4 r
                if v / 1024 == 0xD800 / 1024 && lo / 1024 == 0xDC00 / 1024 && (r.take 4).length == 4 then
                  some (((v % 1024) * 1024) + (lo % 1024) + 0x10000, r.drop 4)
                else none
              | _ => none
            match pair with
            | some (w, r) =>
              go fuel ((0x80 + w % 64).toUInt8 :: (0x80 + (w / 64) % 64).toUInt8 ::
                (0x80 + (w / 4096) % 64).toUInt8 :: (0xF0 + w / 262144).toUInt8 :: acc) r
            | none =>
              go fuel ((0x80 + v % 64).toUInt8 :: (0x80 + (v / 64) % 64).toUInt8 :: (0xE0 + v / 4096).toUInt8 :: acc)
                rest
        else
          let d := if c == 98 then 8 else if c == 102 then 12 else if c == 110 then 10
            else if c == 114 then 13 else if c == 116 then 9 else c
          go fuel (d :: acc) rest
      | b :: rest => go fuel (b :: acc) rest
  go (raw.length + 1) [] raw

/-- The integer of a JSON integer's text, or none when it does not fit. -/
def jsonInteger? (text : List UInt8) : Option Int :=
  let (negative, ds) := match text with
    | 45 :: r => (true, r)
    | r => (false, r)
  let ds := ds.takeWhile isDigitByte
  let n : Nat := ds.foldl (fun n b => n * 10 + digitValue b) 0
  if negative then (if n ≤ Nat.pow 2 63 then some (-(n : Int)) else none)
  else if n < Nat.pow 2 63 then some n else none

/-- The SQL value of a tree: `NULL`, 1 and 0 for the literals, numbers and
decoded text, and JSON text for arrays and objects. -/
def JsonNode.toValue (n : JsonNode) : Except Fault (Datum × Bool) :=
  match n with
  | .null => pure (.null, false)
  | .bool b => pure (.integer (if b then 1 else 0), false)
  | .number t real =>
    if real then pure (.ofReal (readReal t).value, false)
    else match jsonInteger? t with
      | some i => pure (.integer i, false)
      | none => pure (.ofReal (readReal t).value, false)
  | .string raw => pure (.text (unescapeJson raw), false)
  | .edited d json => pure (d, json)
  | _ => do pure (.text (← n.render), true)

/-- The name of a tree's type, as `json_type` gives it. -/
def JsonNode.typeName : JsonNode → String
  | .null => "null"
  | .bool b => if b then "true" else "false"
  | .number _ real => if real then "real" else "integer"
  | .string _ => "text"
  | .array _ => "array"
  | .object _ => "object"
  | .edited d _ => match d with
    | .null => "null"
    | .integer _ => "integer"
    | .real _ => "real"
    | _ => "text"

/-- The fault of a path that cannot be read, with the path from where it fails. -/
def jsonPathError (near : List UInt8) : Fault :=
  let quoted := near.flatMap fun b => if b == 39 then [b, b] else [b]
  operational ("JSON path error near '" ++ (String.fromUTF8? (ByteArray.mk quoted.toArray)).getD "" ++ "'")

/-- One step of a path, read from its text: a key, an index from the start,
or an index back from the end; with the rest of the path. -/
inductive PathStep where
  | key (k : List UInt8)
  | index (i : Nat)
  | fromEnd (back : Nat)

/-- Reads the key of a `.` step. -/
def readKeyStep (path : List UInt8) : Except Fault (List UInt8 × List UInt8) :=
  match path with
  | 34 :: rest =>
    let k := rest.takeWhile (· != 34)
    if k.length == rest.length then throw (jsonPathError path) else pure (k, rest.drop (k.length + 1))
  | _ =>
    let k := path.takeWhile fun b => b != 46 && b != 91
    if k.isEmpty then throw (jsonPathError path) else pure (k, path.drop k.length)

/-- Reads an index step after `[`, given the whole step text for errors. -/
def readIndexStep (whole body : List UInt8) : Except Fault (PathStep × List UInt8) :=
  let ds := body.takeWhile isDigitByte
  let n := ds.foldl (fun n b => n * 10 + digitValue b) 0
  match body.drop ds.length with
  | 93 :: rest => if ds.isEmpty then throw (jsonPathError whole) else pure (.index n, rest)
  | _ =>
    match body with
    | 35 :: r =>
      match r with
      | 45 :: r2 =>
        let ds2 := r2.takeWhile isDigitByte
        if ds2.isEmpty then
          match r with
          | 93 :: rest => pure (.fromEnd 0, rest)
          | _ => throw (jsonPathError whole)
        else
          let x := ds2.foldl (fun n b => n * 10 + digitValue b) 0
          match r2.drop ds2.length with
          | 93 :: rest => pure (.fromEnd x, rest)
          | _ => throw (jsonPathError whole)
      | 93 :: rest => pure (.fromEnd 0, rest)
      | _ => throw (jsonPathError whole)
    | _ => throw (jsonPathError whole)

/-- The position of an index step in an array of `n` items; none past the start. -/
def PathStep.position (s : PathStep) (n : Nat) : Option Nat :=
  match s with
  | .index i => some i
  | .fromEnd x => if x > n then none else some (n - x)
  | .key _ => none

/-- Finds the node a path names below a node; none when a step finds
nothing. Edited values are opaque. -/
def jsonLookup : Nat → JsonNode → List UInt8 → Except Fault (Option JsonNode)
  | 0, _, _ => pure none
  | fuel + 1, node, path =>
    match path with
    | [] => pure (some node)
    | 46 :: rest =>
      match node with
      | .object members => do
        let (k, after) ← readKeyStep rest
        match members.find? (·.1 == k) with
        | some (_, v) => jsonLookup fuel v after
        | none => pure none
      | _ => pure none
    | 91 :: body =>
      match body with
      | 35 :: _ =>
        match node with
        | .array items => do
          let (step, after) ← readIndexStep path body
          match step.position items.length with
          | some i => match items[i]? with
            | some v => jsonLookup fuel v after
            | none => pure none
          | none => pure none
        | _ => pure none
      | _ => do
        let (step, after) ← readIndexStep path body
        match node, step with
        | .array items, .index i => match items[i]? with
          | some v => jsonLookup fuel v after
          | none => pure none
        | _, _ => pure none
    | _ => throw (jsonPathError path)

/-- Reads a whole path: it must start with `$`. -/
def JsonNode.lookup (root : JsonNode) (path : List UInt8) : Except Fault (Option JsonNode) :=
  match path with
  | 36 :: rest => jsonLookup (path.length + 1) root rest
  | _ => throw (jsonPathError path)

/-- How an edit treats a path: whether it replaces what is there, and whether
it adds what is missing. -/
structure EditMode where
  replaces : Bool
  adds : Bool

/-- The tree a path builds where nothing is, ending in a value: an object
for a `.` step, an array for `[0]`; none for any other step. -/
def buildPath : Nat → List UInt8 → JsonNode → Except Fault (Option JsonNode)
  | 0, _, _ => pure none
  | fuel + 1, path, value =>
    match path with
    | [] => pure (some value)
    | 46 :: rest => do
      let (k, after) ← readKeyStep rest
      match ← buildPath fuel after value with
      | some v => pure (some (.object [(k, v)]))
      | none => pure none
    | 91 :: 48 :: 93 :: after => do
      match ← buildPath fuel after value with
      | some v => pure (some (.array [v]))
      | none => pure none
    | _ => pure none

/-- Edits the node a path names: replaces it, or adds it where its last
steps are missing, as the mode allows. -/
def jsonEdit (mode : EditMode) (value : JsonNode) : Nat → JsonNode → List UInt8 → Except Fault JsonNode
  | 0, node, _ => pure node
  | fuel + 1, node, path =>
    match node with
    | .edited _ _ => pure node
    | _ =>
    match path with
    | [] => pure (if mode.replaces then value else node)
    | 46 :: rest =>
      match node with
      | .object members => do
        let (k, after) ← readKeyStep rest
        match members.findIdx? (·.1 == k) with
        | some i =>
          let (key, v) := members[i]?.getD ([], .null)
          let v' ← jsonEdit mode value fuel v after
          pure (.object (members.set i (key, v')))
        | none =>
          if mode.adds then
            match ← buildPath fuel after value with
            | some v => pure (.object (members ++ [(k, v)]))
            | none => pure node
          else pure node
      | _ => pure node
    | 91 :: body =>
      let onArray := fun (items : List JsonNode) => do
        let (step, after) ← readIndexStep path body
        match step.position items.length with
        | some i =>
          match items[i]? with
          | some v =>
            let v' ← jsonEdit mode value fuel v after
            pure (JsonNode.array (items.set i v'))
          | none =>
            if i == items.length && mode.adds then
              match ← buildPath fuel after value with
              | some v => pure (.array (items ++ [v]))
              | none => pure node
            else pure node
        | none => pure node
      match body with
      | 35 :: _ =>
        match node with
        | .array items => onArray items
        | _ => pure node
      | _ => do
        let _ ← readIndexStep path body
        match node with
        | .array items => onArray items
        | _ => pure node
    | _ => throw (jsonPathError path)

/-- Removes the node a path names. -/
def jsonRemove : Nat → JsonNode → List UInt8 → Except Fault (Option JsonNode)
  | 0, node, _ => pure (some node)
  | fuel + 1, node, path =>
    match path with
    | [] => pure none
    | 46 :: rest =>
      match node with
      | .object members => do
        let (k, after) ← readKeyStep rest
        match members.findIdx? (·.1 == k) with
        | some i =>
          let (key, v) := members[i]?.getD ([], .null)
          match ← jsonRemove fuel v after with
          | some v' => pure (some (.object (members.set i (key, v'))))
          | none => pure (some (.object (members.eraseIdx i)))
        | none => pure (some node)
      | _ => pure (some node)
    | 91 :: body =>
      let onArray := fun (items : List JsonNode) => do
        let (step, after) ← readIndexStep path body
        match step.position items.length with
        | some i =>
          match items[i]? with
          | some v =>
            match ← jsonRemove fuel v after with
            | some v' => pure (some (JsonNode.array (items.set i v')))
            | none => pure (some (.array (items.eraseIdx i)))
          | none => pure (some node)
        | none => pure (some node)
      match body with
      | 35 :: _ =>
        match node with
        | .array items => onArray items
        | _ => pure (some node)
      | _ => do
        let _ ← readIndexStep path body
        match node with
        | .array items => onArray items
        | _ => pure (some node)
    | _ => throw (jsonPathError path)

mutual

/-- A tree with the members whose value is `null` taken out of its objects, all the way down. -/
def JsonNode.dropNulls : JsonNode → JsonNode
  | .object members => .object (dropNullMembers members)
  | n => n

/-- Members without those whose value is `null`, the rest cleaned all the way down. -/
def dropNullMembers : List (List UInt8 × JsonNode) → List (List UInt8 × JsonNode)
  | [] => []
  | (k, v) :: rest =>
    match v with
    | .null => dropNullMembers rest
    | _ => (k, v.dropNulls) :: dropNullMembers rest

end

mutual

/-- Merges a patch into a target: an object patch sets, merges or (with
`null`) removes members; any other patch replaces the target. -/
def JsonNode.mergePatch (target : JsonNode) : JsonNode → JsonNode
  | .object patch =>
    let start := match target with
      | .object ms => ms
      | _ => []
    .object (mergeMembers start patch)
  | patch => patch

/-- Merges the members of a patch into members, one by one. -/
def mergeMembers (ms : List (List UInt8 × JsonNode)) : List (List UInt8 × JsonNode) → List (List UInt8 × JsonNode)
  | [] => ms
  | (k, pv) :: rest =>
    let ms := match pv with
      | .null => match ms.findIdx? (·.1 == k) with
        | some i => ms.eraseIdx i
        | none => ms
      | _ =>
        match ms.findIdx? (·.1 == k) with
        | some i =>
          let (key, tv) := ms[i]?.getD ([], .null)
          ms.set i (key, tv.mergePatch pv)
        | none => ms ++ [(k, pv.dropNulls)]
    mergeMembers ms rest

end

/-- The result of a function that gives JSON text. -/
def jsonResult (n : JsonNode) : Except Fault (Datum × Bool) := do pure (.text (← n.render), true)

/-- Reads the JSON of a function's argument: none for `NULL`. -/
def jsonArgument (d : Datum) : Except Fault (Option JsonNode) :=
  match d.textBytes? with
  | none => pure none
  | some bs => match JsonNode.parse? bs with
    | some n => pure (some n)
    | none => throw malformedJson

/-- The path text of an argument, none for `NULL`. -/
def pathArgument (d : Datum) : Option (List UInt8) := d.cText?

/-- A path of the `->` operators: `$` paths as they are, a number as an
index, anything else as a key. -/
def arrowPath (p : List UInt8) : List UInt8 :=
  match p with
  | 36 :: rest => match rest with
    | [] | 46 :: _ | 91 :: _ => p
    | _ => utf8 "$." ++ p
  | b :: _ => if isDigitByte b then utf8 "$[" ++ p ++ utf8 "]" else if b == 91 then 36 :: p else utf8 "$." ++ p
  | [] => utf8 "$."

/-- Edits a tree at each path with the value after it. -/
def editAll (mode : EditMode) (root : JsonNode) (pairs : List (Datum × Bool)) : Except Fault (Option (Datum × Bool)) :=
  let rec go : List (Datum × Bool) → JsonNode → Except Fault (Option (Datum × Bool))
    | (p, _) :: (v, vj) :: rest, node => do
      match pathArgument p with
      | none => go rest node
      | some path =>
        match path with
        | 36 :: [] =>
          -- the root itself
          if mode.replaces then
            match node with
            | .edited _ _ => go rest node
            | _ => go rest (.edited v vj)
          else go rest node
        | 36 :: body => go rest (← jsonEdit mode (.edited v vj) (path.length + 1) node body)
        | _ => throw (jsonPathError path)
    | _, node =>
      match node with
      | .edited d j => pure (some (d, j))
      | _ => do pure (some (← jsonResult node))
  go pairs root

/-- The JSON functions; none for a name that is not one. Each argument comes
with whether it is JSON text, and so is the result. -/
def jsonFunction? (name : String) (args : List (Datum × Bool)) : Option (Except Fault (Datum × Bool)) :=
  let a := (args[0]?.map (·.1)).getD .null
  let values := args.map (·.1)
  let null : Except Fault (Datum × Bool) := pure (.null, false)
  match name with
  | "json" => some do
    match ← jsonArgument a with
    | some n => jsonResult n
    | none => null
  | "json_array" => some do
    let parts ← args.mapM fun (d, j) => jsonOfValue d j
    pure (.text (91 :: joinCommas parts ++ [93]), true)
  | "json_object" => some do
    if args.length % 2 == 1 then throw (operational "json_object() requires an even number of arguments")
    let rec members : List (Datum × Bool) → Except Fault (List (List UInt8))
      | (k, _) :: (v, vj) :: rest => do
        let key ← match k with
          | .text bs => pure bs
          | _ => throw (operational "json_object() labels must be TEXT")
        let body ← jsonOfValue v vj
        let more ← members rest
        pure ((34 :: escapeJsonBytes key ++ [34, 58] ++ body) :: more)
      | _ => pure []
    let parts ← members args
    pure (.text (123 :: joinCommas parts ++ [125]), true)
  | "json_quote" => some do pure (.text (← jsonOfValue a ((args[0]?.map (·.2)).getD false)), true)
  | "json_valid" => some (pure (.ofBool ((a.textBytes?.bind JsonNode.parse?).isSome), false))
  | "json_type" | "json_array_length" => some do
    match ← jsonArgument a with
    | none => null
    | some root =>
      let target ← match values[1]? with
        | some p => match pathArgument p with
          | some path => root.lookup path
          | none => pure none
        | none => pure (some root)
      match target with
      | none => null
      | some n =>
        if name == "json_type" then pure (.ofString n.typeName, false)
        else match n with
          | .array items => pure (.integer items.length, false)
          | _ => pure (.integer 0, false)
  | "json_extract" => some do
    if args.length < 2 then null else
    match ← jsonArgument a with
    | none => null
    | some root =>
      match values.drop 1 with
      | [p] => match pathArgument p with
        | none => null
        | some path => match ← root.lookup path with
          | some n => n.toValue
          | none => null
      | paths => do
        let parts ← paths.mapM fun p => do
          match pathArgument p with
          | none => pure (utf8 "null")
          | some path => match ← root.lookup path with
            | some n => n.render
            | none => pure (utf8 "null")
        pure (.text (91 :: joinCommas parts ++ [93]), true)
  | "->" | "->>" => some do
    match ← jsonArgument a with
    | none => null
    | some root =>
      match values[1]?.bind pathArgument with
      | none => null
      | some p => match ← root.lookup (arrowPath p) with
        | some n => if name == "->" then jsonResult n else do pure ((← n.toValue).1, false)
        | none => null
  | "json_set" | "json_insert" | "json_replace" => some do
    if args.length % 2 == 0 then
      throw (operational (name ++ "() needs an odd number of arguments"))
    match ← jsonArgument a with
    | none => null
    | some root =>
      let mode : EditMode := match name with
        | "json_set" => { replaces := true, adds := true }
        | "json_insert" => { replaces := false, adds := true }
        | _ => { replaces := true, adds := false }
      match ← editAll mode root (args.drop 1) with
      | some r => pure r
      | none => null
  | "json_remove" => some do
    match ← jsonArgument a with
    | none => null
    | some root =>
      let rec go : List Datum → JsonNode → Except Fault (Option JsonNode)
        | [], node => pure (some node)
        | p :: rest, node => do
          match pathArgument p with
          | none => pure none
          | some path =>
            match path with
            | 36 :: body =>
              match ← jsonRemove (path.length + 1) node body with
              | some n => go rest n
              | none => pure none
            | _ => throw (jsonPathError path)
      match ← go (values.drop 1) root with
      | some n => jsonResult n
      | none => null
  | "json_patch" => some do
    match ← jsonArgument a with
    | none => null
    | some target =>
      match ← jsonArgument (values[1]?.getD .null) with
      | none => null
      | some patch => jsonResult (target.mergePatch patch)
  | _ => none

end SqlMapper.Database

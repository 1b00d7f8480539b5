import SqlMapper.Dialect.Basic

/-!
# Database URLs

A database URL is split the generic way: a scheme of letters, digits, `+`,
`-` and `.` that starts with a letter and ends at the first `:` (lowercased),
then after `//` the network location up to the first `/`, `?` or `#`, then the
path up to the query or fragment. Leading blanks and control characters are
ignored, and tabs and line breaks anywhere.

The dialect of a URL is that of its scheme. A SQLite database lives at the
path without its leading `/`, else at the host, else in memory; an in-memory
database is private to each connection, every other database is shared by
all connections to it.
-/

namespace SqlMapper

/-- The parts of a database URL. -/
structure DatabaseUrl where
  scheme : String
  netloc : String
  path : String
  deriving Inhabited

namespace DatabaseUrl

/-- Characters a URL scheme is made of. -/
def isSchemeChar (c : Char) : Bool := c.isAlphanum || c == '+' || c == '-' || c == '.'

/-- Splits a URL into its scheme, network location and path. -/
def parse (url : String) : DatabaseUrl :=
  let cs := (url.toList.filter fun c => c != '\t' && c != '\r' && c != '\n').dropWhile fun c => c.toNat ≤ 32
  let (scheme, rest) :=
    match cs.findIdx? (· == ':') with
    | some i =>
      let pre := cs.take i
      match pre with
      | c :: _ =>
        if c.isAlpha && pre.all isSchemeChar then (String.ofList (pre.map Char.toLower), cs.drop (i + 1))
        else ("", cs)
      | [] => ("", cs)
    | none => ("", cs)
  let (netloc, rest) :=
    match rest with
    | '/' :: '/' :: more =>
      let loc := more.takeWhile fun c => c != '/' && c != '?' && c != '#'
      (String.ofList loc, more.drop loc.length)
    | _ => ("", rest)
  let path := rest.takeWhile fun c => c != '?' && c != '#'
  { scheme := scheme, netloc := netloc, path := String.ofList path }

/-- The host of the network location, lowercased, without user and port; none when empty. -/
def hostname (u : DatabaseUrl) : Option String :=
  let afterUser := ((u.netloc.splitOn "@").getLast?).getD u.netloc
  let host := (afterUser.splitOn ":").head?.getD afterUser
  if host.isEmpty then none else some (String.ofList (host.toList.map Char.toLower))

/-- Where a SQLite database of this URL lives. -/
def sqlitePath (u : DatabaseUrl) : String :=
  let p := String.ofList (u.path.toList.drop 1)
  if !p.isEmpty then p else u.hostname.getD ":memory:"

end DatabaseUrl

/-- Whether all connections to a URL's database see the same data. -/
def Dialect.sharesData (d : Dialect) (u : DatabaseUrl) : Bool :=
  match d with
  | .sqlite => u.sqlitePath != ":memory:"
  | _ => true

end SqlMapper

import LinkFacts.Component.Page
import LinkFacts.Replay.Machine

/-!
# Descriptions

Descriptions of caches, mounters and mounts for debugging, with the fields of each part.
-/

namespace LinkFacts
namespace Describe

/-- The fields of a part in braces. -/
def record (name : String) (fields : List (String × String)) : String :=
  name ++ " \x7b " ++ ", ".intercalate (fields.map fun field => field.1 ++ ": " ++ field.2) ++
    " \x7d"

/-- The fields of a part that has more of them. -/
def openRecord (name : String) (fields : List (String × String)) : String :=
  name ++ " \x7b " ++ ", ".intercalate (fields.map fun field => field.1 ++ ": " ++ field.2) ++
    ", .. \x7d"

/-- An optional part. -/
def optional : Option String → String
  | some text => "Some(" ++ text ++ ")"
  | none => "None"

/-- A truth value. -/
def flag (value : Bool) : String := if value then "true" else "false"

/-- A text of printable characters between quotes. -/
def quoted (text : List Char) : String :=
  String.ofList ('"' :: (text.flatMap fun c =>
    if c = '"' ∨ c = '\\' then ['\\', c] else [c]) ++ ['"'])

/-- A duration in milliseconds, with the greatest unit of which there is at least one. -/
def duration (milliseconds : Nat) : String :=
  let seconds := milliseconds / 1000
  let rest := milliseconds % 1000
  if milliseconds = 0 then "0ns"
  else if seconds = 0 then toString milliseconds ++ "ms"
  else if rest = 0 then toString seconds ++ "s"
  else
    let places := Text.dropTail (· == '0') (Text.writePadded 10 3 rest)
    toString seconds ++ "." ++ String.ofList places ++ "s"

/-- An address of eight pieces; one that stands for four bytes shows them. -/
def pieces (values : List Nat) : List Char :=
  match values with
  | [0, 0, 0, 0, 0, 0xFFFF, high, low] =>
    "::ffff:".toList ++ Host.writeIpv4 (high * 0x10000 + low)
  | _ => Host.writeIpv6 values

/-- A host. -/
def host : Host → String
  | .name text => "Domain(" ++ quoted text ++ ")"
  | .ipv4 address => "Ipv4(" ++ String.ofList (Host.writeIpv4 address) ++ ")"
  | .ipv6 values => "Ipv6(" ++ String.ofList (pieces values) ++ ")"

/-- An address. -/
def address (address : Address) : String :=
  let authority := address.authority.getD ⟨[], none, none, none⟩
  record "Url"
    [("scheme", quoted address.scheme),
      ("cannot_be_a_base", flag address.isOpaque),
      ("username", quoted authority.username),
      ("password", optional (authority.password.map quoted)),
      ("host", optional (authority.host.map host)),
      ("port", optional (authority.port.map toString)),
      ("path", quoted address.path),
      ("query", optional (address.query.map quoted)),
      ("fragment", optional (address.fragment.map quoted))]

/-- A cache. -/
def cache (store : Store) (cache : Nat) : String :=
  record "FactCache"
    [("fetcher", quoted store.provider.name.toList),
      ("options", record "CacheOptions"
        [("fetch_timeout", optional (store.timeout.map duration))]),
      ("entries", toString ((store.caches[cache]?).map List.length |>.getD 0))]

/-- What mounts the facts of a page. -/
def mounter (page : Page) : String :=
  openRecord "Mounter"
    [("cache", cache page.store Page.cache), ("base", optional (page.base.map address))]

/-- A mount. -/
def mount (mount : Mount) : String :=
  record "Mount"
    [("source", Replay.Machine.describeSubscription mount.watch.id mount.watch.done),
      ("dispatch", mount.dispatch.describe)]

end Describe
end LinkFacts

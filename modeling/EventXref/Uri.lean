import Std.Data.TreeMap
import EventXref.Path
import EventXref.Text.Hex

/-!
Document addresses. A URI is kept in its normal form, compared and ordered as text; its path names
a file when nothing but an empty or local host stands before it.
-/
namespace EventXref

structure Uri where
  text : String
deriving DecidableEq, Repr, Inhabited

namespace Uri

instance : Ord Uri := ⟨fun a b => compare a.text b.text⟩

instance : Std.TransOrd Uri where
  eq_swap {a b} := by
    have swapped : compare a.text b.text = (compare b.text a.text).swap := Std.OrientedCmp.eq_swap
    exact swapped
  isLE_trans {a b c} hab hbc := by
    have left : (compare a.text b.text).isLE := hab
    have right : (compare b.text c.text).isLE := hbc
    exact @Std.TransCmp.isLE_trans String compare _ _ _ _ left right

instance : Std.LawfulEqOrd Uri where
  compare_self {a} := by
    have same : compare a.text a.text = .eq := Std.ReflCmp.compare_self
    exact same
  eq_of_compare {a b} h := by
    have compared : compare a.text b.text = .eq := h
    have same : a.text = b.text := Std.LawfulEqCmp.eq_of_compare compared
    cases a
    cases b
    simp_all

structure Parts where
  scheme : List Char
  host : Option (List Char)
  path : List Char
  tail : List Char

/-- The host of an authority: neither user nor port belong to it, and an empty one is none. -/
def hostOf (authority : List Char) : Option (List Char) :=
  let afterUser := (authority.reverse.takeWhile (· ≠ '@')).reverse
  let host := afterUser.takeWhile (· ≠ ':')
  if host.isEmpty then none else some host

def splitParts (text : List Char) : Parts :=
  let scheme := text.takeWhile (· ≠ ':')
  let rest := (text.dropWhile (· ≠ ':')).drop 1
  let inBody := fun c => c ≠ '?' && c ≠ '#'
  let body := rest.takeWhile inBody
  let tail := rest.dropWhile inBody
  match body with
  | '/' :: '/' :: r => ⟨scheme, hostOf (r.takeWhile (· ≠ '/')), r.dropWhile (· ≠ '/'), tail⟩
  | _ => ⟨scheme, none, body, tail⟩

def parts (u : Uri) : Parts := splitParts u.text.toList

def specialSchemes : List String := ["http", "https", "ws", "wss", "ftp", "file"]

def percentDecode : List Char → List UInt8
  | '%' :: a :: b :: r =>
    match Text.hexDigit? a, Text.hexDigit? b with
    | some x, some y => UInt8.ofNat (x * 16 + y) :: percentDecode r
    | _, _ => UInt8.ofNat '%'.toNat :: percentDecode (a :: b :: r)
  | c :: r => String.utf8EncodeChar c ++ percentDecode r
  | [] => []

def upperHex (n : Nat) : Char := (Nat.digitChar n).toUpper

def percentEncode (plain : Char → Bool) (bytes : List UInt8) : List Char :=
  bytes.flatMap fun b =>
    let c := Char.ofNat b.toNat
    if b.toNat < 0x80 && plain c then [c]
    else ['%', upperHex (b.toNat / 16), upperHex (b.toNat % 16)]

def plainInName (c : Char) : Bool :=
  0x20 < c.toNat && c.toNat < 0x7F &&
    !(['"', '<', '>', '\x60', '#', '?', '\x7b', '\x7d', '%', '\\', '/'].contains c)

def plainInPath (c : Char) : Bool :=
  0x20 < c.toNat && c.toNat < 0x7F && !(['"', '<', '>', '\x60', '\x7b', '\x7d'].contains c)

def plainInTail (c : Char) : Bool :=
  0x20 < c.toNat && c.toNat < 0x7F && !(['"', '<', '>'].contains c)

def plainInOpaquePath (c : Char) : Bool := 0x20 ≤ c.toNat && c.toNat < 0x7F

def isSchemeChar (c : Char) : Bool := c.isAlphanum || c == '+' || c == '-' || c == '.'

def parse? (s : String) : Option Uri :=
  let t := Text.trim (fun c => c.toNat ≤ 0x20) s.toList
  let p := splitParts t
  let scheme := p.scheme
  if t.contains ':' && scheme.head?.any Char.isAlpha && scheme.all isSchemeChar then
    let head := t.take (t.length - p.path.length - p.tail.length)
    let plain := if p.path.head? = some '/' then plainInPath else plainInOpaquePath
    let normal := scheme.map Char.toLower ++ head.drop scheme.length ++
      percentEncode plain (Text.toBytes p.path) ++ percentEncode plainInTail (Text.toBytes p.tail)
    some ⟨String.ofList normal⟩
  else none

def closeDrive (path : List UInt8) : List UInt8 :=
  match path.reverse with
  | mark :: letter :: _ :: _ =>
    let isLetter := (Char.ofNat letter.toNat).isAlpha
    if isLetter && (mark == 0x3A || mark == 0x7C) then path ++ [Path.slash] else path
  | _ => path

def filePath? (u : Uri) : Option Path :=
  let p := u.parts
  let isLocal := match p.host with
    | none => true
    | some host => host = "localhost".toList && specialSchemes.contains (String.ofList p.scheme)
  if p.path.head? = some '/' && isLocal then
    some ⟨closeDrive (percentDecode p.path)⟩
  else none

def path (u : Uri) : Path := u.filePath?.getD ⟨Text.toBytes u.parts.path⟩

def segment : Path.Component → List Char
  | .root => []
  | .current => ['/', '.']
  | .parent => ['/', '.', '.']
  | .name bytes => '/' :: percentEncode plainInName bytes

def ofFilePath? (path : Path) : Option Uri :=
  if path.isAbsolute then
    let encoded := path.components.flatMap segment
    some ⟨"file://" ++ String.ofList (if encoded.isEmpty then ['/'] else encoded)⟩
  else none

end Uri

end EventXref

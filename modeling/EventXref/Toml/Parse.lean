import EventXref.Toml.Scalar
import EventXref.Toml.Table

namespace EventXref.Toml

def skipTrivia (inComment : Bool) : List Char → List Char
  | [] => []
  | '\r' :: '\n' :: t => skipTrivia false t
  | c :: t =>
    if c = '\n' then skipTrivia false t
    else if inComment then (if isControl c then c :: t else skipTrivia true t)
    else if isSpace c then skipTrivia false t
    else if c = '#' then skipTrivia true t
    else c :: t

def endLine? (t : List Char) : Option (List Char) :=
  let rest := match t.dropWhile isSpace with
    | '#' :: t => t.dropWhile (!isControl ·)
    | t => t
  if rest.isEmpty then some [] else lineBreak? rest

def isBare (c : Char) : Bool := c.isAlphanum || c == '_' || c == '-'

def keyPart? (t : List Char) : Option (String × List Char) :=
  match t with
  | [] => none
  | c :: body =>
    if c = '"' ∨ c = '\'' then
      (stringBody ⟨c, c == '"', false⟩ (body.length + 1) body).map fun (s, rest) =>
        (String.ofList s, rest)
    else
      let word := t.takeWhile isBare
      if word.isEmpty then none else some (String.ofList word, t.dropWhile isBare)

def maxKeyParts : Nat := 80

def maxNesting : Nat := 80

def keyParts? : Nat → List Char → Option (List String × String × List Char)
  | 0, _ => none
  | limit + 1, t =>
    match keyPart? (t.dropWhile isSpace) with
    | none => none
    | some (part, rest) =>
      match rest.dropWhile isSpace with
      | '.' :: rest =>
        (keyParts? limit rest).map fun (parts, last, rest) => (part :: parts, last, rest)
      | rest => some ([], part, rest)

def key? (t : List Char) : Option (List String × String × List Char) := keyParts? maxKeyParts t

mutual
/-- A value that may hold `room` arrays and tables in one another; `fuel` bounds the steps. -/
def value? : (fuel room : Nat) → List Char → Option (Value × List Char)
  | 0, _, _ => none
  | _, _, [] => none
  | fuel + 1, room, c :: t =>
    if c = '"' ∨ c = '\'' then (string? (c :: t)).map fun (s, rest) => (.text s, rest)
    else if c = '[' ∨ c = '\x7b' then
      match room with
      | 0 => none
      | room + 1 =>
        if c = '[' then
          (items? fuel room (skipTrivia false t)).map fun (items, rest) => (.array items, rest)
        else
          (fields? fuel room [] (skipTrivia false t)).map fun (entries, rest) =>
            (entries.toValue, rest)
    else
      let (word, rest) := plainWord (c :: t)
      (plain? word).map fun v => (v, rest)
def items? : (fuel room : Nat) → List Char → Option (List Value × List Char)
  | 0, _, _ => none
  | fuel + 1, room, t =>
    if t.head? = some ']' then some ([], t.tail)
    else match value? fuel room t with
      | none => none
      | some (v, rest) =>
        match skipTrivia false rest with
        | ',' :: rest =>
          (items? fuel room (skipTrivia false rest)).map fun (items, rest) => (v :: items, rest)
        | ']' :: rest => some ([v], rest)
        | _ => none
def fields? : (fuel room : Nat) → Entries → List Char → Option (Entries × List Char)
  | 0, _, _, _ => none
  | fuel + 1, room, es, t =>
    if t.head? = some '\x7d' then some (es, t.tail)
    else match assignment? fuel room es t with
      | none => none
      | some (es, rest) =>
        match skipTrivia false rest with
        | ',' :: rest => fields? fuel room es (skipTrivia false rest)
        | '\x7d' :: rest => some (es, rest)
        | _ => none
def assignment? : (fuel room : Nat) → Entries → List Char → Option (Entries × List Char)
  | 0, _, _, _ => none
  | fuel + 1, room, es, t =>
    match key? t with
    | none => none
    | some (path, key, rest) =>
      match skipTrivia false rest with
      | '=' :: rest =>
        match value? fuel room (skipTrivia false rest) with
        | none => none
        | some (v, rest) => (es.assign key v path).map fun es => (es, rest)
      | _ => none
end

def header? (close : List Char) (t : List Char) : Option (List String × String × List Char) := do
  let (path, key, rest) ← key? t
  return (path, key, ← Text.after? close rest)

/-- Reads the lines of a document below the header with the keys `current`; the number bounds the
steps. -/
def lines? : Nat → List String → Entries → List Char → Option Entries
  | 0, _, _, _ => none
  | fuel + 1, current, es, t =>
    match skipTrivia false t with
    | [] => some es
    | '[' :: '[' :: t =>
      match header? [']', ']'] t with
      | none => none
      | some (path, key, rest) =>
        match es.within (Entries.begin key) path, endLine? rest with
        | some es, some rest => lines? fuel (path ++ [key]) es rest
        | _, _ => none
    | '[' :: t =>
      match header? [']'] t with
      | none => none
      | some (path, key, rest) =>
        match es.within (Entries.define key) path, endLine? rest with
        | some es, some rest => lines? fuel (path ++ [key]) es rest
        | _, _ => none
    | t =>
      match key? t with
      | some (path, key, '=' :: rest) =>
        match value? (2 * t.length + 1) maxNesting (rest.dropWhile isSpace) with
        | none => none
        | some (v, rest) =>
          match es.within (Entries.assign key v path) current, endLine? rest with
          | some es, some rest => lines? fuel current es rest
          | _, _ => none
      | _ => none

def parse? (source : List Char) : Option Value :=
  let t := match source with
    | '\ufeff' :: t => t
    | t => t
  (lines? (t.length + 1) [] [] t).map Entries.toValue

end EventXref.Toml

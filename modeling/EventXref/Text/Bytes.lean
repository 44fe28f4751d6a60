namespace EventXref.Text

def size : List Char → Nat
  | [] => 0
  | c :: r => c.utf8Size + size r

def takeBytes : Nat → List Char → List Char
  | _, [] => []
  | n, c :: r => if c.utf8Size ≤ n then c :: takeBytes (n - c.utf8Size) r else []

/-- What `takeBytes n` leaves: an offset inside a character is moved back to its start. -/
def dropBytes : Nat → List Char → List Char
  | _, [] => []
  | n, c :: r => if c.utf8Size ≤ n then dropBytes (n - c.utf8Size) r else c :: r

def isBoundary (n : Nat) (t : List Char) : Bool := size (takeBytes n t) == n

def slice? (start stop : Nat) (t : List Char) : Option (List Char) :=
  if start ≤ stop ∧ isBoundary start t ∧ isBoundary stop t then
    some (takeBytes (stop - start) (dropBytes start t))
  else none

def slice (start stop : Nat) (t : List Char) : List Char :=
  dropBytes start (takeBytes stop t)

def trimEnd (p : Char → Bool) (t : List Char) : List Char := (t.reverse.dropWhile p).reverse

def trim (p : Char → Bool) (t : List Char) : List Char := trimEnd p (t.dropWhile p)

def after? : (marker text : List Char) → Option (List Char)
  | [], t => some t
  | _ :: _, [] => none
  | m :: ms, c :: t => if m = c then after? ms t else none

def cut? (marker : List Char) : List Char → Option (List Char × List Char)
  | [] => (after? marker []).map fun rest => ([], rest)
  | c :: t =>
    match after? marker (c :: t) with
    | some rest => some ([], rest)
    | none => (cut? marker t).map fun (before, rest) => (c :: before, rest)

def occursIn (marker text : List Char) : Bool := (cut? marker text).isSome

def splitOn {α : Type} [DecidableEq α] (sep : α) : List α → List (List α)
  | [] => [[]]
  | c :: t =>
    if c = sep then [] :: splitOn sep t
    else match splitOn sep t with
      | [] => [[c]]
      | part :: parts => (c :: part) :: parts

@[simp] theorem size_nil : size [] = 0 := rfl

@[simp] theorem size_cons (c : Char) (t : List Char) : size (c :: t) = c.utf8Size + size t := rfl

@[simp] theorem size_append (s t : List Char) : size (s ++ t) = size s + size t := by
  induction s with
  | nil => simp
  | cons c s ih => simp [ih, Nat.add_assoc]

@[simp] theorem takeBytes_append_dropBytes (n : Nat) (t : List Char) :
    takeBytes n t ++ dropBytes n t = t := by
  induction t generalizing n with
  | nil => rfl
  | cons c t ih => by_cases h : c.utf8Size ≤ n <;> simp [takeBytes, dropBytes, h, ih]

theorem size_takeBytes_le (n : Nat) (t : List Char) : size (takeBytes n t) ≤ n := by
  induction t generalizing n with
  | nil => simp [takeBytes]
  | cons c t ih =>
    by_cases h : c.utf8Size ≤ n
    · have := ih (n - c.utf8Size)
      simp only [takeBytes, h, if_true, size_cons]
      omega
    · simp [takeBytes, h]

end EventXref.Text

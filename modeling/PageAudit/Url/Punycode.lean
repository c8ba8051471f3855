/-!
Labels of domain names in ASCII. The other characters of a label are taken in the order of
their code points and, within one code point, from left to right. Each is written as the
number of places passed since the one before it, where a place is a code point at a position,
in digits of base 36 whose end is marked by a threshold that adapts to the numbers written.
-/
namespace PageAudit.Url.Punycode

def base : Nat := 36

/-- Characters below this one stand for themselves. -/
def firstCode : Nat := 128

def firstBias : Nat := 72

def digit (value : Nat) : Char := Char.ofNat (if value < 26 then 97 + value else 22 + value)

def value? (c : Char) : Option Nat :=
  if 'a' ≤ c && c ≤ 'z' then some (c.toNat - 97)
  else if 'A' ≤ c && c ≤ 'Z' then some (c.toNat - 65)
  else if c.isDigit then some (c.toNat - 22)
  else none

/-- The least digit value at place `place` that a further digit follows. -/
def threshold (bias place : Nat) : Nat := min 26 (max 1 (base * (place + 1) - bias))

theorem threshold_pos (bias place : Nat) : 0 < threshold bias place := by
  unfold threshold; omega

/-- How often a number is divided by 35 before it is small, and what is left of it. -/
def settle (n : Nat) : Nat × Nat :=
  if 455 < n then
    let (times, rest) := settle (n / 35)
    (times + 1, rest)
  else (0, n)

/-- The bias after a number has been written as the `count`-th. -/
def adapt (n count : Nat) (isFirst : Bool) : Nat :=
  let n := if isFirst then n / 700 else n / 2
  let (times, rest) := settle (n + n / count)
  base * times + base * rest / (rest + 38)

/-- The digits of a number, from place `place` on. -/
def digits (bias place n : Nat) : List Char :=
  let t := threshold bias place
  if n < t then [digit n]
  else digit (t + (n - t) % (base - t)) :: digits bias (place + 1) ((n - t) / (base - t))
termination_by n
decreasing_by
  have := threshold_pos bias place
  calc (n - t) / (base - t) ≤ n - t := Nat.div_le_self _ _
    _ < n := by omega

/-- What has been written of a label. `passed` counts the places since the last number. -/
structure Writer where
  written : List Char
  passed : Nat
  bias : Nat
  /-- How many characters of the label have been dealt with. -/
  count : Nat
  isFirst : Bool

/-- Passes a character of the label on the way through code point `code`. -/
def Writer.pass (code : Nat) (w : Writer) (c : Char) : Writer :=
  if c.toNat < code then { w with passed := w.passed + 1 }
  else if c.toNat = code then
    { written := w.written ++ digits w.bias 0 w.passed
      passed := 0
      bias := adapt w.passed (w.count + 1) w.isFirst
      count := w.count + 1
      isFirst := false }
  else w

/-- Goes through the label once for each of the code points, `next` being the code point
after the last one. -/
def Writer.run (label : List Char) (next : Nat) (w : Writer) : List Nat → Writer
  | [] => w
  | code :: codes =>
    let skipped := { w with passed := w.passed + (code - next) * (w.count + 1) }
    let done := label.foldl (Writer.pass code) skipped
    Writer.run label (code + 1) { done with passed := done.passed + 1 } codes

/-- The code points of a label from 128 on, in order. -/
def codes (label : List Char) : List Nat :=
  ((label.map Char.toNat).filter (firstCode ≤ ·)).mergeSort.eraseDups

/-- A label in ASCII. -/
def encode (label : List Char) : List Char :=
  let plain := label.filter (·.toNat < firstCode)
  let start := if plain.isEmpty then [] else plain ++ ['-']
  (Writer.run label firstCode ⟨start, 0, firstBias, plain.length, true⟩ (codes label)).written

/-- Reads a number from place `place` on, on top of `sum`; also the text after it. -/
def number? (bias place weight sum : Nat) : List Char → Option (Nat × List Char)
  | [] => none
  | c :: rest => do
    let v ← value? c
    let t := threshold bias place
    let sum := sum + v * weight
    if v < t then some (sum, rest) else number? bias (place + 1) (weight * (base - t)) sum rest

theorem number?_length {bias place weight sum n : Nat} {cs rest : List Char}
    (h : number? bias place weight sum cs = some (n, rest)) : rest.length < cs.length := by
  induction cs generalizing place weight sum with
  | nil => simp [number?] at h
  | cons c cs ih =>
    rw [number?] at h
    obtain ⟨v, _, h⟩ := Option.bind_eq_some_iff.mp h
    by_cases hv : v < threshold bias place
    · simp only [hv, if_true, Option.some.injEq, Prod.mk.injEq] at h
      simp [← h.2]
    · simp only [hv, if_false] at h
      have := ih h
      simp only [List.length_cons]; omega

/-- Puts the characters that numbers stand for into a label. `code` and `position` are those
of the place where the next number starts counting. -/
def insertAll (code position bias : Nat) (isFirst : Bool) (label : List Char) (cs : List Char) :
    Option (List Char) :=
  if cs.isEmpty then some label
  else match _h : number? bias 0 1 0 cs with
    | none => none
    | some (n, rest) =>
      let count := label.length + 1
      let place := position + n
      let code := code + place / count
      if code.isValidChar then
        insertAll code (place % count + 1) (adapt n count isFirst) false
          (label.insertIdx (place % count) (Char.ofNat code)) rest
      else none
termination_by cs.length
decreasing_by exact number?_length ‹_›

/-- The label that a text in ASCII stands for. -/
def decode? (cs : List Char) : Option (List Char) :=
  let plain := (cs.reverse.dropWhile (· != '-')).drop 1 |>.reverse
  insertAll firstCode 0 firstBias true plain
    (if plain.isEmpty then cs else cs.drop (plain.length + 1))

end PageAudit.Url.Punycode

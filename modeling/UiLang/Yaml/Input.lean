import UiLang.Yaml.Char

/-!
# The text a YAML reader reads

The reader takes the text in chunks of at most 512 bytes and decodes each chunk
whole when the scanner first asks for a character beyond what it has decoded.
A leading byte order mark is dropped. A character the reader does not accept
(`isAllowed`) stops the reading with `control characters are not allowed`, but
only once the scanner asks for a character of the chunk that holds it: the
characters decoded before that chunk can all be read. So the input is the
decoded characters and that bound.

Byte strings made by decoding escapes or base64 become text the way a terminal
shows them: each invalid or cut-off sequence becomes one `U+FFFD`.
-/

namespace UiLang.Yaml

/-- The size of a raw chunk. -/
def chunkSize : Nat := 512

/-- The decoded text, and how many characters can be read before the reader
fails, when it fails. -/
structure Input where
  chars : Array Char
  limit : Option Nat
  deriving Repr, Inhabited

/-- The counts of characters decoded after each chunk, from the byte sizes of
the characters (after a mark of `skipped` bytes, already read): chunk `k` fills
the raw buffer to `chunkSize` bytes with what an incomplete character left over.
The result lists, for each chunk, how many characters are complete by its end. -/
def chunkCounts (sizes : List Nat) (skipped : Nat) : List Nat :=
  let total := skipped + sizes.foldl (· + ·) 0
  -- ends[i] is the byte offset just past character i
  let ends := (sizes.foldl (fun (acc : List Nat × Nat) n => ((acc.2 + n) :: acc.1, acc.2 + n))
    ([], skipped)).1.reverse
  let countUpTo (r : Nat) : Nat := (ends.filter (· ≤ r)).length
  let rec go (fuel readTo : Nat) (acc : List Nat) : List Nat :=
    match fuel with
    | 0 => acc.reverse
    | fuel + 1 =>
      let decoded := countUpTo readTo
      let acc := decoded :: acc
      if readTo ≥ total then acc.reverse
      else
        let doneBytes := match ends.take decoded |>.getLast? with
          | some e => e
          | none => skipped
        let leftover := readTo - doneBytes
        go fuel (readTo + min (chunkSize - leftover) (total - readTo)) acc
  go (total + 2) (min chunkSize total) []

/-- Decodes a text: drops a leading byte order mark and finds the bound of the
first character the reader does not accept. -/
def Input.ofString (text : String) : Input :=
  let all := text.toList
  let (chars, skipped) := match all with
    | c :: rest => if isByteOrderMark c then (rest, 3) else (all, 0)
    | [] => ([], 0)
  let sizes := chars.map Char.utf8Size
  let limit := match chars.findIdx? (fun c => !isAllowed c) with
    | none => none
    | some bad =>
      let counts := chunkCounts sizes skipped
      -- the first chunk whose decoded count passes the bad character
      match counts.findIdx? (· > bad) with
      | some 0 | none => some 0
      | some (k + 1) => some (counts.getD k 0)
  ⟨chars.toArray, limit⟩

/-- The character at a position; `'\x00'` past the end. -/
def Input.get (inp : Input) (i : Nat) : Char := inp.chars.getD i '\x00'

/-! ## Byte strings as text -/

/-- Whether a byte continues a UTF-8 sequence. -/
def isContinuation (b : Nat) : Bool := 0x80 ≤ b && b < 0xC0

/-- The length of the well-formed UTF-8 sequence at the head of a byte list,
when there is one, and otherwise the length of its longest well-formed start
(at least one byte), which stands for one replacement character. -/
def sequenceLength : List Nat → Bool × Nat
  | [] => (false, 0)
  | b :: rest =>
    let second (lo hi : Nat) : Bool := match rest with
      | c :: _ => lo ≤ c && c ≤ hi
      | [] => false
    let tailOk (k : Nat) : Nat :=
      -- how many of the `k` bytes after the second are continuation bytes
      ((rest.drop 1).take k).takeWhile isContinuation |>.length
    if b < 0x80 then (true, 1)
    else if 0xC2 ≤ b && b ≤ 0xDF then
      if second 0x80 0xBF then (true, 2) else (false, 1)
    else if 0xE0 ≤ b && b ≤ 0xEF then
      let (lo, hi) := if b == 0xE0 then (0xA0, 0xBF) else if b == 0xED then (0x80, 0x9F)
        else (0x80, 0xBF)
      if second lo hi then
        if tailOk 1 == 1 then (true, 3) else (false, 2)
      else (false, 1)
    else if 0xF0 ≤ b && b ≤ 0xF4 then
      let (lo, hi) := if b == 0xF0 then (0x90, 0xBF) else if b == 0xF4 then (0x80, 0x8F)
        else (0x80, 0xBF)
      if second lo hi then
        let t := tailOk 2
        if t == 2 then (true, 4) else (false, 2 + t)
      else (false, 1)
    else (false, 1)

/-- The code point of a well-formed UTF-8 sequence. -/
def codePoint : List Nat → Nat
  | [b] => b
  | [b, c] => (b % 0x20) * 0x40 + c % 0x40
  | [b, c, d] => (b % 0x10) * 0x1000 + (c % 0x40) * 0x40 + d % 0x40
  | [b, c, d, e] => (b % 0x08) * 0x40000 + (c % 0x40) * 0x1000 + (d % 0x40) * 0x40 + e % 0x40
  | _ => 0xFFFD

/-- The text of a byte string: well-formed sequences become their characters,
and each longest ill-formed part becomes `U+FFFD`. -/
def textOfBytes (bytes : List Nat) : String :=
  let rec go (fuel : Nat) (bs : List Nat) (acc : List Char) : List Char :=
    match fuel, bs with
    | 0, _ | _, [] => acc.reverse
    | fuel + 1, bs =>
      let (ok, n) := sequenceLength bs
      let n := max n 1
      let c := if ok then Char.ofNat (codePoint (bs.take n)) else '�'
      go fuel (bs.drop n) (c :: acc)
  String.ofList (go (bytes.length + 1) bytes [])

/-- The UTF-8 bytes of a character. -/
def bytesOfChar (c : Char) : List Nat := (String.singleton c).toUTF8.toList.map (·.toNat)

/-- The first `n` bytes of a text, as text: a character cut in two becomes
`U+FFFD`. -/
def takeBytes (s : String) (n : Nat) : String :=
  textOfBytes ((s.toList.flatMap bytesOfChar).take n)

end UiLang.Yaml

import BankedZ80.Bytes

/-!
# Names in a ZIP archive

A name is stored in UTF-8 or, by default, in the IBM PC's character set. Every sequence of bytes has a
text in either: what is broken in UTF-8 shows as replacement characters.
-/

namespace BankedZ80.Zip

/-- The upper half of the IBM PC's character set. -/
def pcUpperHalf : String :=
  "ÇüéâäàåçêëèïîìÄÅÉæÆôöòûùÿÖÜ¢£¥₧ƒáíóúñÑªº¿⌐¬½¼¡«»░▒▓│┤╡╢╖╕╣║╗╝╜╛┐└┴┬├─┼╞╟╚╔╩╦╠═╬╧╨╤╥╙╘╒╓╫╪┘┌█▄▌▐▀"
    ++ "αßΓπΣσµτΦΘΩδ∞φε∩≡±≥≤⌠⌡÷≈°∙·√ⁿ²■\u00a0"

/-- A character of the IBM PC's character set. -/
def pcChar (b : UInt8) : Char :=
  if b < 0x80 then Char.ofNat b.toNat
  else (pcUpperHalf.toList[b.toNat - 0x80]?).getD '?'

/-- Bytes that may follow the first byte of a character: how many there are, and the bounds of the
first of them. -/
def continuation (lead : UInt8) : Nat × UInt8 × UInt8 :=
  if lead < 0xC2 then (0, 0x80, 0xBF)
  else if lead < 0xE0 then (1, 0x80, 0xBF)
  else if lead = 0xE0 then (2, 0xA0, 0xBF)
  else if lead = 0xED then (2, 0x80, 0x9F)
  else if lead < 0xF0 then (2, 0x80, 0xBF)
  else if lead = 0xF0 then (3, 0x90, 0xBF)
  else if lead < 0xF4 then (3, 0x80, 0xBF)
  else if lead = 0xF4 then (3, 0x80, 0x8F)
  else (0, 0x80, 0xBF)

/-- Number of bytes after the first that begin a character without completing it. -/
def brokenTail (lead : UInt8) (rest : List UInt8) : Nat :=
  let (count, low, high) := continuation lead
  match count, rest with
  | n + 1, second :: more =>
    if low ≤ second ∧ second ≤ high then
      1 + ((more.take n).takeWhile fun b => 0x80 ≤ b && b ≤ 0xBF).length
    else 0
  | _, _ => 0

/-- Text in UTF-8, with one replacement character for each beginning of a character that is not
completed, and for each byte that begins none. -/
def lossyText (bytes : List UInt8) : List Char :=
  match bytes with
  | [] => []
  | b :: rest =>
    match (Bytes.ofList (b :: rest.take 3)).utf8DecodeChar? 0 with
    | some c => c :: lossyText (rest.drop (c.utf8Size - 1))
    | none => Char.ofNat 0xFFFD :: lossyText (rest.drop (brokenTail b rest))
termination_by bytes.length

/-- The text of some bytes. -/
def storedText (utf8 : Bool) (bytes : ByteArray) : String :=
  String.ofList (if utf8 then lossyText (Bytes.toList bytes) else (Bytes.toList bytes).map pcChar)

/-- Is this the name of a directory? -/
def isDirectoryName (name : String) : Bool := name.endsWith "/" || name.endsWith "\\"

end BankedZ80.Zip

/-!
The code page 437, in which the upper half of the bytes are letters, box drawings and signs.
-/
namespace Linkage.Text

/-- The characters of the upper half of the bytes. -/
def upperHalf : String :=
  "ÇüéâäàåçêëèïîìÄÅÉæÆôöòûùÿÖÜ¢£¥₧ƒáíóúñÑªº¿⌐¬½¼¡«»░▒▓│┤╡╢╖╕╣║╗╝╜╛┐" ++
  "└┴┬├─┼╞╟╚╔╩╦╠═╬╧╨╤╥╙╘╒╓╫╪┘┌█▄▌▐▀αßΓπΣσµτΦΘΩδ∞φε∩≡±≥≤⌠⌡÷≈°∙·√ⁿ²■\u00a0"

/-- The character of a byte. -/
def ofCodePage (b : UInt8) : Char :=
  if b < 0x80 then Char.ofNat b.toNat else (upperHalf.toList[b.toNat - 0x80]?).getD ' '

end Linkage.Text

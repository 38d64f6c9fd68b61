import Assay.Text.Utf8

/-!
# Octets

Shells and the small programs beside them handle text byte by byte. Here a byte is handled as the
character of the same number, so that the operations on characters serve for bytes too;
`toBytes_ofBytes` says that nothing is lost by it.
-/

namespace Assay.Text

/-- A sequence of bytes, each as the character of its number. -/
abbrev Octets := List Char

end Assay.Text

namespace Assay.Text.Octets

/-- A sequence of bytes as characters. -/
def ofBytes (bs : Bytes) : List Char := bs.map fun b => Char.ofNat b.toNat

/-- The bytes of characters that stand for bytes. -/
def toBytes (s : List Char) : Bytes := s.map fun c => UInt8.ofNat c.toNat

/-- The bytes of a text, as characters. -/
def ofString (s : String) : List Char := ofBytes (encodeText s)
where
  /-- The bytes of a text. -/
  encodeText (s : String) : Bytes := Utf8.encode s.toList

/-- The text that bytes given as characters encode, with U+FFFD for each invalid part. -/
def toString (s : List Char) : String := String.ofList (Utf8.decodeLossy (toBytes s))

/-- The number of a byte is kept by its character. -/
theorem toNat_ofNat_of_byte (b : UInt8) : (Char.ofNat b.toNat).toNat = b.toNat := by
  have h : b.toNat < 256 := b.toNat_lt
  have hv : b.toNat.isValidChar := Or.inl (by omega)
  rw [Char.ofNat, dif_pos hv]
  rfl

/-- Nothing is lost by handling bytes as characters. -/
theorem toBytes_ofBytes (bs : Bytes) : toBytes (ofBytes bs) = bs := by
  induction bs with
  | nil => rfl
  | cons b rest ih =>
    simp only [ofBytes, toBytes, List.map_cons, toNat_ofNat_of_byte] at ih ⊢
    rw [ih]
    simp

end Assay.Text.Octets

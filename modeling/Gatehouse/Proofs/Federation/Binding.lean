import Gatehouse.Federation.Binding
import Gatehouse.Proofs.Base64
import Gatehouse.Proofs.Json.Record

/-!
# Reading back a binding

A binding that is packed into a cookie value and read again is the same binding (`decode_encode`),
whatever its texts are. Reading is strict (`encode_decode_strict`): nothing is read from a text with
padding or another foreign character, or with a bit that belongs to no byte. The texts of drawn
bytes are never empty, and are as long as a verifier has to be.
-/

namespace Gatehouse

open Decoder

namespace LoginBinding

/-- **The object of a binding is read as the binding.** -/
theorem reads_toJson (b : LoginBinding) : Reads decodeJson 1 b.toJson b := by
  intro depth rest hdepth _
  have hnonce := reads_text b.nonce
  have hverifier := reads_text b.verifier
  have hstate := reads_text b.state
  have hfits : ∀ m ∈ [("nonce", Json.str b.nonce), ("pkce_verifier", .str b.verifier),
      ("state", .str b.state)], Fits shape 0 m := by
    simp only [List.forall_mem_cons]
    exact ⟨fits_member rfl hnonce, fits_member rfl hverifier, fits_member rfl hstate,
      List.forall_mem_nil _⟩
  obtain ⟨found, hentries, hfound⟩ := exists_entries 3 hfits (by simp) hdepth rest
  rw [toJson, decodeJson, bind_ok hentries, needed_eq hfound (by simp) rfl hstate,
    needed_eq hfound (by simp) rfl hnonce, needed_eq hfound (by simp) rfl hverifier]
  rfl

/-- **A cookie value is read as the binding that was packed into it.** -/
theorem decode_encode (b : LoginBinding) : decode b.encode = some b := by
  have hread : decodeJson.runBytes (Text.utf8 b.toJson.render) = .ok b :=
    run_of_reads b.reads_toJson (by decide)
  simp only [decode, encode, Base64.decode?_encode Base64.legible_urlSafe, hread]

/-- Different bindings have different cookie values. -/
theorem encode_injective : Function.Injective encode := by
  intro b b' h
  have hread := congrArg decode h
  rw [decode_encode, decode_encode] at hread
  exact Option.some.inj hread

theorem decode_of_base64 {value : String} (h : Base64.decode? Base64.urlSafe value = none) :
    decode value = none := by
  rw [decode, h]

/-- A text with a character that is not of the alphabet is no cookie value of a binding. -/
theorem decode_of_foreign {value : String} (h : ∃ c ∈ value.toList, ¬ Base64.IsUrlSafe c) :
    decode value = none := by
  obtain ⟨c, hc, hforeign⟩ := h
  refine decode_of_base64 (Option.eq_none_iff_forall_ne_some.mpr fun bytes hread => ?_)
  exact hforeign (Base64.isUrlSafe_of_decode? hread c hc)

/-- **The code of bindings is exact and strict.** The value of a binding has only characters of the
alphabet that is safe in addresses and is read as that binding, so no two bindings share a value.
A text with any other character, such as padding, or with a bit that belongs to no byte, is read as
no binding. -/
theorem encode_decode_strict :
    (∀ b : LoginBinding,
      (∀ c ∈ b.encode.toList, Base64.IsUrlSafe c) ∧ decode b.encode = some b) ∧
      Function.Injective encode ∧
      ∀ value : String, ((∃ c ∈ value.toList, ¬ Base64.IsUrlSafe c) ∨ '=' ∈ value.toList ∨
        Base64.HasSpareBits Base64.urlSafe value.toList) → decode value = none := by
  refine ⟨fun b => ⟨Base64.isUrlSafe_of_mem_encode _, b.decode_encode⟩, encode_injective, ?_⟩
  rintro value (hforeign | hpadding | hspare)
  · exact decode_of_foreign hforeign
  · exact decode_of_foreign ⟨'=', hpadding, by decide⟩
  · exact decode_of_base64 (Base64.decode?_of_hasSpareBits Base64.legible_urlSafe hspare)

/-- The value of a binding whose state is a quotation mark, as it is, with padding, with a blank
behind it, and with the lowest bit of its last character set. -/
theorem encode_decode_strict_quote :
    let value := "eyJub25jZSI6IiIsInBrY2VfdmVyaWZpZXIiOiIiLCJzdGF0ZSI6IlwiIn"
    decode (value ++ "0") = some ⟨"\"", "", ""⟩ ∧ decode (value ++ "0=") = none ∧
      decode (value ++ "0 ") = none ∧ decode (value ++ "1") = none := by
  intro value
  have hvalue : value ++ "0" = encode ⟨"\"", "", ""⟩ := by decide +kernel
  obtain ⟨hread, -, hstrict⟩ := encode_decode_strict
  refine ⟨?_, hstrict _ (.inr (.inl (by decide))), hstrict _ (.inl ⟨' ', by decide, by decide⟩),
    hstrict _ (.inr (.inr ⟨value.toList, 53, by decide, by decide, by decide⟩))⟩
  rw [hvalue]
  exact (hread _).2

/-! ### Drawn texts -/

/-- Thirty-two bytes are written in forty-three characters. -/
theorem length_drawnText (draw : Draw) : (drawnText draw).toList.length = 43 := by
  rw [drawnText, Base64.encode, String.toList_ofList, Base64.length_encodeChars, draw.property]

theorem drawnText_ne (draw : Draw) : drawnText draw ≠ "" := by
  intro h
  have hlength := length_drawnText draw
  rw [h] at hlength
  cases hlength

/-- The bytes of a drawn text are as many as its characters. -/
theorem length_utf8_drawnText (draw : Draw) : (Text.utf8 (drawnText draw)).length = 43 := by
  have hascii : ∀ c ∈ (drawnText draw).toList, c.toNat < 128 :=
    Base64.forall_mem_encode (by decide) draw.val
  rw [Text.utf8_eq, Text.bytes_of_lt hascii, List.length_map, length_drawnText]

end LoginBinding

end Gatehouse

import Gatehouse.Proofs.Base64
import Gatehouse.Proofs.Text.Cut
import Gatehouse.Token.Codec

/-!
# Opening what was signed

A token that was signed under a key has the three parts that it was put together from, and under
the same key it opens: what is left to say is whether the text of the payload can be read
(`open?_sign`). For the claims of a codec this is `verify_sign`.
-/

namespace Gatehouse

namespace Envelope

variable {α : Type}

/-- The parts of a token that was signed. -/
theorem parts?_sign (secret : Bytes) (payload : Json) :
    parts? (sign secret payload) =
      some (encodeJson header, encodeJson payload,
        signature secret (encodeJson header ++ "." ++ encodeJson payload)) := by
  have htoken : (sign secret payload).toList =
      ((encodeJson header).toList ++ '.' :: (encodeJson payload).toList) ++ '.' ::
        (signature secret (encodeJson header ++ "." ++ encodeJson payload)).toList := by
    simp [sign]
  -- no dot is in the signature, and none in the payload, so the last two dots part the token
  have hsig : ∀ c ∈ (signature secret (encodeJson header ++ "." ++ encodeJson payload)).toList,
      c ≠ '.' := Base64.ne_dot_of_mem_encode _
  have hpayload : ∀ c ∈ (encodeJson payload).toList, c ≠ '.' := Base64.ne_dot_of_mem_encode _
  simp only [parts?, htoken, Text.cutLast?_append_cons hsig, Text.cutLast?_append_cons hpayload,
    String.ofList_toList]

/-- A part is read as the text that was written. -/
theorem decodePart_encodeJson (decode : Decoder α) (j : Json) :
    decodePart decode (encodeJson j) = (decode.run j.render).mapError fun _ => .json := by
  rw [decodePart, encodeJson, Base64.decode?_encode Base64.legible_urlSafe]
  rfl

private theorem eq_ok_of_toOption {ε : Type} {r : Except ε α} {a : α} (h : r.toOption = some a) :
    r = .ok a := by
  cases r with
  | ok b => exact congrArg Except.ok (Option.some.inj h)
  | error e => cases h

/-- The header of a token that was signed names its algorithm. -/
theorem headerAlgorithm_header : headerAlgorithm.run header.render = .ok algorithm :=
  eq_ok_of_toOption (by decide +kernel)

/-- **A token opens under the key it was signed with**, if its payload can be read. -/
theorem open?_sign (secret : Bytes) (decode : Decoder α) (payload : Json) :
    open? secret decode (sign secret payload) =
      (do
        let claims ← (decode.run payload.render).mapError fun _ => Fault.json
        let _ ← (registered.run payload.render).mapError fun _ => Fault.json
        pure claims) := by
  rw [open?, parts?_sign]
  simp only [decodePart_encodeJson, headerAlgorithm_header, ne_eq, not_true_eq_false, if_false]
  rfl

end Envelope

/-- A token of a codec is checked by the claims that are read out of its payload. -/
theorem TokenCodec.verify_sign (codec : TokenCodec) (now : Int) {claims : Claims}
    (hclaims : (Claims.decode.run claims.toJson.render).toOption = some claims)
    (hregistered : (Envelope.registered.run claims.toJson.render).toOption = some ()) :
    codec.verify now (codec.sign claims) = codec.checkClaims now claims := by
  rw [verify, sign, Envelope.open?_sign, Envelope.eq_ok_of_toOption hclaims,
    Envelope.eq_ok_of_toOption hregistered]
  rfl

end Gatehouse

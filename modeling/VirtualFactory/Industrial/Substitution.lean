import VirtualFactory.Foundation.Replacement
import VirtualFactory.Industrial.CommandText

/-!
# Tokens in command bodies

A number that a stream writes holds neither of the braces that a token begins and ends
with, and it begins with a character that no token has.  So the substitution of a command
body leaves no token behind.
-/

namespace VirtualFactory

open Foundation

/-!
# The characters of a number
-/

theorem streamText_cases (negativeNan : Bool) (value : Double) :
    (exists n : Numeral, value.streamText negativeNan = n.text) ∨
      ["nan", "-nan", "inf", "-inf"].contains (value.streamText negativeNan) = true := by
  cases value with
  | nan =>
      cases negativeNan with
      | true => exact Or.inr (by decide)
      | false => exact Or.inr (by decide)
  | infinite negative =>
      cases negative with
      | true => exact Or.inr (by decide +revert)
      | false => exact Or.inr (by decide +revert)
  | finite negative m e _ => exact Or.inl ⟨_, rfl⟩

theorem braces_not_mem_streamText (negativeNan : Bool) (value : Double) :
    '\x7b' ∉ (value.streamText negativeNan).toList ∧
      '\x7d' ∉ (value.streamText negativeNan).toList := by
  rcases streamText_cases negativeNan value with ⟨n, hn⟩ | hspecial
  · rw [hn]
    constructor
    · intro hopen
      exact absurd (n.numeralChar_text _ hopen) (by decide)
    · intro hclose
      exact absurd (n.numeralChar_text _ hclose) (by decide)
  · generalize value.streamText negativeNan = text at hspecial
    simp only [List.contains_iff_mem, List.mem_cons, List.not_mem_nil, or_false] at hspecial
    rcases hspecial with rfl | rfl | rfl | rfl <;> decide

/-- A number begins with a character that the token does not have. -/
theorem streamText_eq_cons (negativeNan : Bool) (value : Double) :
    exists c rest, (value.streamText negativeNan).toList = c :: rest ∧
      c ∉ valueToken.toList := by
  rcases streamText_cases negativeNan value with ⟨n, hn⟩ | hspecial
  · rw [hn]
    rcases n.text_eq_cons with ⟨c, rest, htext, hc⟩
    refine ⟨c, rest, htext, ?_⟩
    intro htoken
    have hletters : valueToken.toList.all (fun d => d != '-' && !d.isDigit) = true := by
      decide
    have hletter := List.all_eq_true.mp hletters c htoken
    simp only [Bool.and_eq_true, bne_iff_ne, Bool.not_eq_true'] at hletter
    rcases hletter with ⟨hsign, hdigit⟩
    rcases hc with hc | hc
    · exact hsign hc
    · rw [hdigit] at hc
      cases hc
  · generalize value.streamText negativeNan = text at hspecial
    simp only [List.contains_iff_mem, List.mem_cons, List.not_mem_nil, or_false] at hspecial
    rcases hspecial with rfl | rfl | rfl | rfl
    · exact ⟨'n', _, rfl, by decide⟩
    · exact ⟨'-', _, rfl, by decide⟩
    · exact ⟨'i', _, rfl, by decide⟩
    · exact ⟨'-', _, rfl, by decide⟩

theorem inert_streamText (negativeNan : Bool) (value : Double) :
    Replace.Inert valueToken.toList (value.streamText negativeNan).toList := by
  rcases braces_not_mem_streamText negativeNan value with ⟨hopen, hclose⟩
  constructor
  case inside =>
    intro hinside
    exact hopen (hinside.subset (by decide))
  case around =>
    intro haround
    rcases streamText_eq_cons negativeNan value with ⟨c, rest, htext, hc⟩
    rw [htext] at haround
    exact hc (haround.subset List.mem_cons_self)
  case after =>
    intro mark hmark htail hstarts
    rcases List.exists_cons_of_ne_nil hmark with ⟨c, rest, rfl⟩
    have hc : c = '\x7b' := (List.cons_prefix_cons.mp hstarts).left
    rw [hc] at htail
    exact hopen (htail.subset List.mem_cons_self)
  case before =>
    intro mark hmark hinit hends
    have hlast : mark.getLast hmark = '\x7d' := hends.getLast hmark
    exact absurd (hinit.subset (hlast ▸ List.getLast_mem hmark)) hclose

/-!
# Command bodies
-/

/-- Every token of a body becomes the number, the rest of the body is kept, and no token
is left. -/
structure Substituted (bodyTemplate inserted body : String) : Prop where
  ends : Replace.LoopEnds valueToken.toList inserted.toList bodyTemplate.toList 0 body.toList
  rewrites : Replace.Rewrites valueToken.toList inserted.toList bodyTemplate.toList
    body.toList
  free : ¬ valueToken.toList <:+: body.toList
  same : ¬ valueToken.toList <:+: bodyTemplate.toList -> body = bodyTemplate

theorem substituted_substituteNumber (text : TextLib) (negativeNan : Bool)
    (bodyTemplate : String) (value : Double) :
    Substituted bodyTemplate (value.streamText negativeNan)
      (substituteNumber (text.streaming negativeNan) bodyTemplate value) := by
  have htoken : valueToken ≠ "" := by decide
  rcases Replace.replaceAll_spec htoken (value.streamText negativeNan) bodyTemplate with
    ⟨hrewrites, hends⟩
  constructor
  case ends => exact hends
  case rewrites => exact hrewrites
  case free => exact hrewrites.free (inert_streamText negativeNan value)
  case same =>
    intro hfree
    exact String.toList_inj.mp (hrewrites.unchanged hfree)

/-- The bodies of both adapters are filled in completely, and in the same way. -/
theorem substituteValue_exact (text : TextLib) (negativeNan : Bool) (bodyTemplate : String)
    (value : Double) :
    Substituted bodyTemplate (value.streamText negativeNan)
        (MqttIndustrialAdapter.substituteValue (text.streaming negativeNan) bodyTemplate
          value) ∧
      Substituted bodyTemplate (value.streamText negativeNan)
        (RestIndustrialAdapter.substituteValue (text.streaming negativeNan) bodyTemplate
          value) ∧
      MqttIndustrialAdapter.substituteValue = RestIndustrialAdapter.substituteValue :=
  ⟨substituted_substituteNumber text negativeNan bodyTemplate value,
    substituted_substituteNumber text negativeNan bodyTemplate value, rfl⟩

end VirtualFactory

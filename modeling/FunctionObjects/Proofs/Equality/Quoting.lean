import Mathlib.Data.Nat.Digits.Defs
import FunctionObjects.Text.Quoted
/-!
# Quoted texts tell texts apart

Every character has a form of its own between quotes, and no form is the beginning of another one: so
the characters can be told one by one.
-/

namespace FunctionObjects.Text

theorem hexDigit_mod (n : Nat) : hexDigit (n % 16) = hexDigit n := by
  rw [hexDigit, hexDigit, Nat.mod_mod]

theorem hexDigit_inj {m n : Nat} (h : hexDigit m = hexDigit n) : m % 16 = n % 16 := by
  have hall : ∀ i < 16, ∀ j < 16, hexDigit i = hexDigit j → i = j := by decide
  refine hall _ (Nat.mod_lt m (by decide)) _ (Nat.mod_lt n (by decide)) ?_
  rw [hexDigit_mod, hexDigit_mod, h]

/-- The digits of a number, the most significant one first. -/
def hexDigits (width n : Nat) : List Char :=
  (List.range width).reverse.map fun i => hexDigit (n / Nat.pow 16 i)

theorem toList_hexText (width n : Nat) : (hexText width n).toList = hexDigits width n :=
  String.toList_ofList

theorem length_hexDigits (width n : Nat) : (hexDigits width n).length = width := by
  simp [hexDigits]

theorem hexDigits_inj {width m n : Nat} (hm : m < 16 ^ width) (hn : n < 16 ^ width)
    (h : hexDigits width m = hexDigits width n) : m = n := by
  have hdigit : ∀ i < width, m / 16 ^ i % 16 = n / 16 ^ i % 16 := by
    intro i hi
    have hi' : i ∈ (List.range width).reverse := by simpa using hi
    exact hexDigit_inj (List.map_inj_left.mp h i hi')
  clear h
  induction width generalizing m n with
  | zero => simp at hm hn; omega
  | succ width ih =>
    have hlast : m % 16 = n % 16 := by simpa using hdigit 0 (Nat.succ_pos _)
    have hrest : m / 16 = n / 16 := by
      refine ih ?_ ?_ fun i hi => ?_
      · rw [Nat.pow_succ] at hm
        omega
      · rw [Nat.pow_succ] at hn
        omega
      · have hshift := hdigit (i + 1) (by omega)
        rwa [Nat.pow_succ, Nat.mul_comm, ← Nat.div_div_eq_div_mul, ← Nat.div_div_eq_div_mul] at hshift
    omega

/-- How a character that does not stand for itself is marked, and with which digits. -/
inductive Escapes (quote : Char) : Char → Char → List Char → Prop where
  | itself {c : Char} (h : c = quote ∨ c = '\\') : Escapes quote c c []
  | newline : Escapes quote '\n' 'n' []
  | returning : Escapes quote '\r' 'r' []
  | tab : Escapes quote '\t' 't' []
  | narrow {c : Char} (h : c.toNat < 16 ^ 2) : Escapes quote c 'x' (hexDigits 2 c.toNat)
  | middle {c : Char} (h : c.toNat < 16 ^ 4) : Escapes quote c 'u' (hexDigits 4 c.toNat)
  | wide (c : Char) : Escapes quote c 'U' (hexDigits 8 c.toNat)

/-- A character stands for itself or is marked by a backslash. -/
theorem quotedChar_cases (quote c : Char) :
    ((quotedChar quote c).toList = [c] ∧ c ≠ '\\') ∨
      ∃ mark ds, (quotedChar quote c).toList = '\\' :: mark :: ds ∧ Escapes quote c mark ds := by
  rw [quotedChar]
  split_ifs with hself hnewline hreturning htab hprints hnarrow hmiddle
  · exact .inr ⟨c, [], by simp, .itself (by simpa using hself)⟩
  · obtain rfl := beq_iff_eq.mp hnewline
    exact .inr ⟨'n', [], by simp, .newline⟩
  · obtain rfl := beq_iff_eq.mp hreturning
    exact .inr ⟨'r', [], by simp, .returning⟩
  · obtain rfl := beq_iff_eq.mp htab
    exact .inr ⟨'t', [], by simp, .tab⟩
  · refine .inl ⟨by simp, ?_⟩
    rintro rfl
    simp at hself
  · exact .inr ⟨'x', _, by simp [toList_hexText], .narrow hnarrow⟩
  · exact .inr ⟨'u', _, by simp [toList_hexText], .middle hmiddle⟩
  · exact .inr ⟨'U', _, by simp [toList_hexText], .wide c⟩

theorem toNat_lt (c : Char) : c.toNat < 16 ^ 8 := c.val.toNat_lt

/-- A mark and its digits tell which character is meant, whatever follows. -/
theorem Escapes.inj {quote c d mark : Char} {ds es r s : List Char}
    (hquote : quote = '\'' ∨ quote = '"') (hc : Escapes quote c mark ds) (hd : Escapes quote d mark es)
    (h : ds ++ r = es ++ s) : c = d := by
  have hdigits : ∀ {width : Nat}, c.toNat < 16 ^ width → d.toNat < 16 ^ width →
      hexDigits width c.toNat ++ r = hexDigits width d.toNat ++ s → c = d := by
    intro width hc hd h
    have hdigits := (List.append_inj h (by simp only [length_hexDigits])).1
    exact Char.toNat_inj.mp (hexDigits_inj hc hd hdigits)
  cases hc with
  | itself hself =>
    cases hd with
    | itself => rfl
    | _ => rcases hself with rfl | hself <;> rcases hquote with hquote | hquote <;> simp_all
  | newline | returning | tab =>
    cases hd with
    | itself hself =>
      rcases hself with rfl | hself <;> rcases hquote with hquote | hquote <;> simp_all
    | _ => rfl
  | narrow hc =>
    cases hd with
    | itself hself =>
      rcases hself with rfl | hself <;> rcases hquote with hquote | hquote <;> simp_all
    | narrow hd => exact hdigits hc hd h
  | middle hc =>
    cases hd with
    | itself hself =>
      rcases hself with rfl | hself <;> rcases hquote with hquote | hquote <;> simp_all
    | middle hd => exact hdigits hc hd h
  | wide =>
    cases hd with
    | itself hself =>
      rcases hself with rfl | hself <;> rcases hquote with hquote | hquote <;> simp_all
    | wide => exact hdigits (toNat_lt c) (toNat_lt d) h

/-- No character's form is the beginning of another one's. -/
theorem quotedChar_inj {quote c d : Char} {r s : List Char} (hquote : quote = '\'' ∨ quote = '"')
    (h : (quotedChar quote c).toList ++ r = (quotedChar quote d).toList ++ s) : c = d := by
  rcases quotedChar_cases quote c with ⟨hc, hcne⟩ | ⟨mark, ds, hc, hcmark⟩ <;>
    rcases quotedChar_cases quote d with ⟨hd, hdne⟩ | ⟨mark', es, hd, hdmark⟩ <;>
    simp only [hc, hd, List.cons_append, List.cons.injEq, List.nil_append] at h
  · exact h.1
  · exact absurd h.1 hcne
  · exact absurd h.1.symm hdne
  · obtain ⟨-, rfl, h⟩ := h
    exact hcmark.inj hquote hdmark h

/-- The characters between the quotes tell the text. -/
theorem flatMap_quotedChar_inj {quote : Char} (hquote : quote = '\'' ∨ quote = '"') {cs ds : List Char}
    (h : cs.flatMap (fun c => (quotedChar quote c).toList) =
      ds.flatMap fun d => (quotedChar quote d).toList) : cs = ds := by
  have hne : ∀ c, (quotedChar quote c).toList ≠ [] := by
    intro c
    rcases quotedChar_cases quote c with ⟨hc, -⟩ | ⟨_, _, hc, -⟩ <;> simp [hc]
  induction cs generalizing ds with
  | nil =>
    cases ds with
    | nil => rfl
    | cons d ds => simp [hne] at h
  | cons c cs ih =>
    cases ds with
    | nil => simp [hne] at h
    | cons d ds =>
      simp only [List.flatMap_cons] at h
      obtain rfl := quotedChar_inj hquote h
      rw [ih (List.append_cancel_left h)]

theorem quoteFor_cases (cs : List Char) : quoteFor cs = '\'' ∨ quoteFor cs = '"' := by
  rw [quoteFor]
  split
  · exact .inr rfl
  · exact .inl rfl

theorem toList_quoted (s : String) : (quoted s).toList = quoteFor s.toList ::
    (s.toList.flatMap fun c => (quotedChar (quoteFor s.toList) c).toList) ++ [quoteFor s.toList] := by
  simp [quoted, List.flatMap_map]

/-- Different texts are quoted differently. -/
theorem quoted_inj {s t : String} (h : quoted s = quoted t) : s = t := by
  have hlist := congrArg String.toList h
  rw [toList_quoted, toList_quoted, List.cons_append, List.cons_append, List.cons.injEq] at hlist
  obtain ⟨hquote, hbody⟩ := hlist
  rw [← hquote] at hbody
  exact String.toList_inj.mp
    (flatMap_quotedChar_inj (quoteFor_cases _) (List.append_inj_left' hbody rfl))

end FunctionObjects.Text

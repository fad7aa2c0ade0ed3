import FilterList.Line
import FilterList.Proofs.RuleParts

/-! Lines with a dollar sign and something behind it, such as the options of a rule. The sign belongs
to no mark, so what kind of line it is shows in what stands before the sign, but for the marks of
cosmetic lines, which may stand behind it as well. A rule that is cut at the sign is placed by the
text before it and by what its options say; only a block that they do not limit is read as a whole
once more. -/

namespace FilterList

namespace Rule
variable {rule text : Text}

theorem exception_append_dollar
    (cut : splitOptions (Text.dropLead rule "||".toList ++ '$' :: text) =
      (Text.dropLead rule "||".toList, some text)) :
    exception (rule ++ '$' :: text) =
      let options := Options.ofText text
      let pattern := Text.dropLead rule "||".toList
      if options.notThirdParty then .error .notThirdParty
      else if options.thirdParty then thirdPartyException pattern options.domains
      else match options.domains with
        | none => .error .unsupportedOptions
        | some domains => domainException pattern domains := by
  have kept := Text.dropLead_append_cons (by decide : '$' ∉ "||".toList) rule text
  cases listed : (Options.ofText text).domains with
  | none => simp only [exception, kept, cut, listed]
  | some domains => simp only [exception, kept, cut, listed]

/-- What comes of a block that is cut at the sign, where no bar at its end pins it as a whole. -/
theorem blocking_append_dollar (unpinned : text.getLast? ≠ some '|')
    (cut : splitOptions (Text.dropLead rule "||".toList ++ '$' :: text) =
      (Text.dropLead rule "||".toList, some text)) :
    blocking (rule ++ '$' :: text) =
      let options := Options.ofText text
      let entry := Text.dropLead rule "||".toList
      let pattern := Text.dropLead entry "||".toList
      if options.notThirdParty then .error .notThirdParty
      else if options.thirdParty then thirdPartyBlock pattern options.domains
      else match options.domains with
        | some domains => domainBlock pattern domains
        | none => unlimitedBlock (rule ++ '$' :: text) (entry ++ '$' :: text) entry (some text) := by
  have unbarred : ['|'].isSuffixOf? (Text.dropLead rule "||".toList ++ '$' :: text) = none :=
    Text.isSuffixOf?_singleton_eq_none (Text.getLast?_append_cons_ne (by decide) unpinned _)
  have kept := Text.dropLead_append_cons (by decide : '$' ∉ "||".toList) rule text
  cases listed : (Options.ofText text).domains with
  | none => simp only [blocking, kept, unbarred, cut, listed, Option.map_some, Option.getD_some]
  | some domains =>
    simp only [blocking, kept, unbarred, cut, listed, Option.map_some, Option.getD_some]

end Rule

namespace Line

def hasCosmeticMark (text : Text) : Bool :=
  Text.occurs "##".toList text || Text.occurs "#@#".toList text || Text.occurs "#?#".toList text

theorem hasCosmeticMark_iff {text : Text} :
    hasCosmeticMark text = true ↔
      ∃ mark ∈ ["##".toList, "#@#".toList, "#?#".toList], mark <:+: text := by
  simp [hasCosmeticMark, Text.occurs_iff_isInfix, or_assoc]

theorem isCosmetic_eq (text : Text) :
    isCosmetic text = (text.head? == some '[' || hasCosmeticMark text) := by
  simp [isCosmetic, hasCosmeticMark, Bool.or_assoc]

/-- Another character keeps apart the marks on its two sides. -/
theorem hasCosmeticMark_append_cons {c : Char} (other : c ∉ "#@?".toList) (front tail : Text) :
    hasCosmeticMark (front ++ c :: tail) = (hasCosmeticMark front || hasCosmeticMark tail) := by
  have made : ∀ mark ∈ ["##".toList, "#@#".toList, "#?#".toList], mark ⊆ "#@?".toList := by decide
  rw [Bool.eq_iff_iff, Bool.or_eq_true, hasCosmeticMark_iff, hasCosmeticMark_iff,
    hasCosmeticMark_iff, ← exists_or]
  apply exists_congr
  intro mark
  rw [← and_or_left]
  apply and_congr_right
  intro among
  constructor
  · exact Text.infix_of_infix_append_cons fun inside => other (made mark among inside)
  · rintro (inFront | inTail)
    · exact inFront.trans (List.prefix_append _ _).isInfix
    · exact inTail.trans (List.IsSuffix.isInfix ⟨front ++ [c], by simp⟩)

theorem hasCosmeticMark_trimEnd (text : Text) :
    hasCosmeticMark (Text.trimEnd text) = hasCosmeticMark text := by
  have solid : ∀ mark ∈ ["##".toList, "#@#".toList, "#?#".toList],
      mark ≠ [] ∧ mark.any Text.isBlank = false := by decide
  rw [Bool.eq_iff_iff, hasCosmeticMark_iff, hasCosmeticMark_iff]
  apply exists_congr
  intro mark
  apply and_congr_right
  intro among
  obtain ⟨filled, unblank⟩ := solid mark among
  have trimmed (text : Text) : mark <:+: Text.trim text ↔ mark <:+: text :=
    Text.infix_trim_iff filled fun c inside =>
      Bool.eq_false_iff.mpr (List.any_eq_false.mp unblank c inside)
  rw [← trimmed, Text.trim_trimEnd, trimmed]

def opening (rule : Text) : Text := (Text.trimStart rule).filter (· ≠ '^')

variable (rule text : Text)

theorem opening_subset : opening rule ⊆ rule := fun _ inside =>
  (List.dropWhile_sublist _).subset (List.mem_filter.mp inside).1

theorem content_append_dollar {text : Text} (noCaret : '^' ∉ text) :
    content (rule ++ '$' :: text) = opening rule ++ '$' :: Text.trimEnd text := by
  have kept : (Text.trimEnd text).filter (· ≠ '^') = Text.trimEnd text := by
    apply List.filter_eq_self.mpr
    rintro c inside
    apply decide_eq_true
    rintro rfl
    exact noCaret (Text.dropEndWhile_subset Text.isBlank _ inside)
  rw [content, Text.trim_append_cons (by decide), List.filter_append, List.filter_cons, kept]
  rfl

theorem isCosmetic_append_dollar :
    isCosmetic (rule ++ '$' :: text) = (isCosmetic rule || hasCosmeticMark text) := by
  have opens : ((rule ++ '$' :: text).head? == some '[') = (rule.head? == some '[') := by
    cases rule <;> rfl
  rw [isCosmetic_eq, isCosmetic_eq, opens, hasCosmeticMark_append_cons (by decide), Bool.or_assoc]

theorem isComment_append_dollar : isComment (rule ++ '$' :: text) = isComment rule := by
  cases rule <;> rfl

/-- What a line without carets and white space around it is, by what stands on the two sides of the
sign. -/
theorem outcomeOf_append_dollar :
    outcomeOf (rule ++ '$' :: text) =
      if isCosmetic rule || hasCosmeticMark text then .cosmetic
      else if isComment rule then .comment (headerValue? (rule ++ '$' :: text))
      else .ofRule (match "@@".toList.isPrefixOf? rule with
        | some entry => Rule.exception (entry ++ '$' :: text)
        | none => Rule.blocking (rule ++ '$' :: text)) := by
  have filled : (rule ++ '$' :: text).isEmpty = false := by simp
  rw [outcomeOf, filled, if_neg Bool.false_ne_true, isCosmetic_append_dollar,
    isComment_append_dollar, Text.isPrefixOf?_append_cons (by decide)]
  cases "@@".toList.isPrefixOf? rule <;> rfl

end Line

end FilterList

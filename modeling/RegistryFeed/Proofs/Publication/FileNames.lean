import RegistryFeed.Publication.Version
import RegistryFeed.Text.Fields

/-!
# The names of published files

The name of a file gives away its version: the kind, the number and the source can
be read off it, whatever characters the source has in its name. Only the source may
have a dot in it, so the first two dots and the last two are those that separate
the parts.
-/

namespace RegistryFeed

namespace Text

theorem dot_not_mem_decimal (n : Int) : '.' ∉ (decimal n).toList := by
  intro mem
  rcases mem_decimal mem with digit | sign
  · exact absurd digit (by decide)
  · exact absurd sign (by decide)

theorem decimal_injective {m n : Int} (same : decimal m = decimal n) : m = n := by
  have texts := congrArg String.toList same
  have signed (i j : Nat) : digits i ≠ '-' :: digits j := by
    intro equal
    have minus : '-' ∈ digits i := equal ▸ List.mem_cons_self
    exact absurd (isAsciiDigit_of_mem_digits _ minus) (by decide)
  cases m with
  | ofNat i =>
    cases n with
    | ofNat j =>
      rw [decimal, decimal, String.toList_ofList, String.toList_ofList] at texts
      rw [← ofDigits_digits i, texts, ofDigits_digits]
    | negSucc j =>
      rw [decimal, decimal, String.toList_ofList, String.toList_ofList] at texts
      exact absurd texts (signed _ _)
  | negSucc i =>
    cases n with
    | ofNat j =>
      rw [decimal, decimal, String.toList_ofList, String.toList_ofList] at texts
      exact absurd texts.symm (signed _ _)
    | negSucc j =>
      rw [decimal, decimal, String.toList_ofList, String.toList_ofList] at texts
      have equal := (List.cons.inj texts).2
      have next : i + 1 = j + 1 := by rw [← ofDigits_digits (i + 1), equal, ofDigits_digits]
      rw [Nat.succ.inj next]

end Text

namespace VersionInfo

theorem dot_not_mem_prefix (session : String) : '.' ∉ sessionPrefix session := by
  intro mem
  have kept := (List.mem_filter.mp (List.mem_of_mem_take mem)).2
  exact absurd kept (by decide)

/-- The parts of a name, with the dots between them. -/
theorem toList_fileName (v : VersionInfo) :
    v.fileName.toList = "nrtm-".toList ++ (v.kind.text.toList ++ '.' ::
      ((Text.decimal v.version).toList ++ '.' ::
        ((v.source.name.toList ++ '.' :: sessionPrefix v.session) ++ ".json".toList))) := by
  simp [fileName]

/-- Two versions whose files have one name are the same version of the same source. -/
theorem same_of_fileName {v w : VersionInfo} (same : v.fileName = w.fileName) :
    v.kind = w.kind ∧ v.version = w.version ∧ v.source = w.source ∧
      sessionPrefix v.session = sessionPrefix w.session := by
  have texts := congrArg String.toList same
  rw [toList_fileName, toList_fileName] at texts
  have dotless (k : DocumentKind) : '.' ∉ k.text.toList := by cases k <;> decide
  obtain ⟨kinds, texts⟩ := Text.eq_of_append_sep (dotless v.kind) (dotless w.kind)
    (List.append_cancel_left texts)
  obtain ⟨numbers, texts⟩ := Text.eq_of_append_sep (Text.dot_not_mem_decimal v.version)
    (Text.dot_not_mem_decimal w.version) texts
  -- the source may have dots, so its end is looked for from behind
  have ends := congrArg List.reverse (List.append_cancel_right texts)
  simp only [List.reverse_append, List.reverse_cons, List.append_assoc,
    List.singleton_append] at ends
  have behind (s : String) : '.' ∉ (sessionPrefix s).reverse := by
    rw [List.mem_reverse]
    exact dot_not_mem_prefix s
  obtain ⟨prefixes, names⟩ := Text.eq_of_append_sep (behind v.session) (behind w.session) ends
  refine ⟨?_, Text.decimal_injective (String.toList_inj.mp numbers), ?_,
    List.reverse_inj.mp prefixes⟩
  · have known := DocumentKind.ofText_text v.kind
    rw [String.toList_inj.mp kinds, DocumentKind.ofText_text] at known
    exact (Except.ok.inj known).symm
  · exact congrArg Source.mk (String.toList_inj.mp (List.reverse_inj.mp names))

end VersionInfo

end RegistryFeed

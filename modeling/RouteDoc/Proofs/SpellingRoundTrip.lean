import RouteDoc.Proofs.Reading

/-! Whatever spelling each token has and whatever gaps stand between them, reading a source gives back
its tokens, each at the bytes of its spelling. -/

namespace RouteDoc
open Text Spelling

/-- Every gap is passed over and every spelling is read whole, since what stands after it is one of
the things that end it. -/
theorem Scan.ofChars_layout {offset : Nat} {lexemes : List Lexeme} {cs : List Char}
    (layout : Layout offset lexemes cs) : ofChars offset cs = ⟨lexemes, none⟩ := by
  induction layout with
  | @last offset gap skipped => exact ofChars_lastGap skipped offset
  | @more offset token lexemes gap spelled rest ending skipped spells admits _ ih =>
    obtain ⟨c, cs, rfl, reading⟩ := read_spelled spells admits
    rw [width_append, ← Nat.add_assoc] at ih ⊢
    rw [List.append_assoc, ofChars_gap skipped offset (c :: cs ++ rest), List.cons_append,
      ofChars_of_token reading, ih]

theorem tokenize_layout {lexemes : List Lexeme} {source : String} (layout : Layout 0 lexemes source.toList) :
    tokenize source = .ok lexemes := by
  have scanned : Scan.ofText source = ⟨lexemes, none⟩ := Scan.ofChars_layout layout
  simp [tokenize, scanned]

/-- A source where neighbours could be mistaken for each other: comments at both ends, delimited tokens
that touch, a delimiter inside of the other kind, an escaped quote, and slashes inside of a word. -/
theorem tokenize_layout_dense :
    let source := "//\nDOES\t«\x60»\x60»\x60'\\'//'x//y\u00a0// end"
    let lexemes : List Lexeme :=
      [⟨.keyword .doesWord, 3, 7⟩, ⟨.literal "\x60", 8, 13⟩, ⟨.literal "»", 13, 17⟩,
        ⟨.string "'//", 17, 23⟩, ⟨.string "x//y", 23, 27⟩]
    Layout 0 lexemes source.toList ∧ tokenize source = .ok lexemes := by
  intro source lexemes
  have layout : Layout 0 lexemes source.toList := by
    have keyword : Spells (.keyword .doesWord) "DOES".toList .asciiBlank := .keyword .doesWord
    have guillemets : Spells (.literal "\x60") "«\x60»".toList .free :=
      @Spells.guillemets ['\x60'] (by decide)
    have backticks : Spells (.literal "»") "\x60»\x60".toList .free :=
      @Spells.backticks ['»'] (by decide)
    have quoted : Spells (.string "'//") "'\\'//'".toList .free :=
      @Spells.quotes '\x27' ['\\', '\x27', '/', '/'] ['\x27', '/', '/'] (.inr rfl)
        (.escaped (.plain (by decide) (by decide) (.plain (by decide) (by decide) .nil)))
    have bare : Spells (.string "x//y") "x//y".toList .blank :=
      @Spells.bare ['x', '/', '/', 'y'] (by decide)
    have comment : Gap "//\n".toList := @Gap.comment [] [] (by decide) .nil
    have tab : Gap "\t".toList := .blank (by decide) .nil
    have ending : LastGap "\u00a0// end".toList :=
      @LastGap.open_ ['\u00a0'] [' ', 'e', 'n', 'd'] (.blank (by decide) .nil) (by decide)
    have spelled := @Layout.more 0 _ _ _ _ _ _ comment keyword (by decide) <|
      .more tab guillemets (by decide) <| .more .nil backticks (by decide) <|
      .more .nil quoted (by decide) <| .more .nil bare (by decide) <| .last ending
    have whole : "//\n".toList ++ "DOES".toList ++ ("\t".toList ++ "«\x60»".toList ++
        ([] ++ "\x60»\x60".toList ++ ([] ++ "'\\'//'".toList ++ ([] ++ "x//y".toList ++
          "\u00a0// end".toList)))) = source.toList := by decide
    rw [whole] at spelled
    exact spelled
  exact ⟨layout, tokenize_layout layout⟩

end RouteDoc

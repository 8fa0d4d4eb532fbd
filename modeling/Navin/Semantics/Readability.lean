import Mathlib.Data.Set.Basic

/-! Unique readability of texts. An encoder is readable before some tails if the
encoding of a value followed by such a tail determines the value and the tail.
Encoders made of readable ones are readable. -/
namespace Readability

variable {α β σ : Type} {encode : α → List σ} {follow : Set (List σ)} {value : α}

/-- One value can be read off, whatever else the text might have encoded. -/
def ReadableAt (encode : α → List σ) (follow : Set (List σ)) (value : α) : Prop :=
  ∀ ⦃other : α⦄ ⦃x y : List σ⦄, x ∈ follow → y ∈ follow →
    encode value ++ x = encode other ++ y → value = other ∧ x = y

def Readable (encode : α → List σ) (follow : Set (List σ)) : Prop :=
  ∀ value, ReadableAt encode follow value

/-- Texts whose first symbol, if any, satisfies a predicate. -/
def opening (p : σ → Prop) : Set (List σ) :=
  {text | ∀ symbol ∈ text.head?, p symbol}

theorem ReadableAt.mono {smaller : Set (List σ)} (hRead : ReadableAt encode follow value)
    (hSmaller : smaller ⊆ follow) : ReadableAt encode smaller value := by
  intro other x y hx hy hText
  exact hRead (hSmaller hx) (hSmaller hy) hText

theorem ReadableAt.cons (hRead : ReadableAt encode follow value) (symbol : σ) :
    ReadableAt (fun value => symbol :: encode value) follow value := by
  intro other x y hx hy hText
  exact hRead hx hy (List.cons.inj hText).2

theorem Readable.injective (hRead : Readable encode follow) (hNil : [] ∈ follow) :
    Function.Injective encode := by
  intro a b hText
  have hAppended : encode a ++ [] = encode b ++ [] := by rw [hText]
  exact (hRead a hNil hNil hAppended).1

/-- Symbols that no encoding contains end it. -/
theorem Readable.ofSymbols {p : σ → Prop} (hInjective : Function.Injective encode)
    (hSymbols : ∀ value, ∀ symbol ∈ encode value, p symbol) :
    Readable encode (opening fun symbol => ¬ p symbol) := by
  classical
  have hTake : ∀ value, ∀ x ∈ opening (fun symbol => ¬ p symbol),
      (encode value ++ x).takeWhile (fun symbol => decide (p symbol)) = encode value := by
    intro value x hx
    rw [List.takeWhile_append_of_pos fun symbol hMem => decide_eq_true (hSymbols value symbol hMem)]
    cases x with
    | nil => simp
    | cons symbol rest =>
        have hOther : ¬ p symbol := hx symbol rfl
        simp [hOther]
  intro value other x y hx hy hText
  have hSame : encode value = encode other := by
    rw [← hTake value x hx, ← hTake other y hy, hText]
  rw [hSame, List.append_cancel_left_eq] at hText
  exact ⟨hInjective hSame, hText⟩

/-- What stands before the first separator can be read off. -/
theorem eq_of_append_cons {separator : σ} {text other x y : List σ} (hText : separator ∉ text)
    (hOther : separator ∉ other) (h : text ++ separator :: x = other ++ separator :: y) :
    text = other ∧ x = y := by
  have hRead : Readable (Subtype.val : {text : List σ // separator ∉ text} → List σ)
      (opening fun symbol => ¬symbol ≠ separator) :=
    Readable.ofSymbols Subtype.val_injective fun text symbol hMem hEq => text.2 (hEq ▸ hMem)
  have hFollows (rest : List σ) :
      separator :: rest ∈ opening fun symbol => ¬symbol ≠ separator := by
    rintro _ ⟨⟩
    exact fun hNe => hNe rfl
  obtain ⟨hSame, hRest⟩ := @hRead ⟨text, hText⟩ ⟨other, hOther⟩ _ _ (hFollows x) (hFollows y) h
  exact ⟨congrArg Subtype.val hSame, (List.cons.inj hRest).2⟩

/-- So can what stands after the last one. -/
theorem eq_of_append_cons_last {separator : σ} {text other x y : List σ} (hText : separator ∉ x)
    (hOther : separator ∉ y) (h : text ++ separator :: x = other ++ separator :: y) :
    text = other ∧ x = y := by
  have hReversed : x.reverse ++ separator :: text.reverse =
      y.reverse ++ separator :: other.reverse := by
    simpa using congrArg List.reverse h
  obtain ⟨hSame, hRest⟩ := eq_of_append_cons (fun hMem => hText (List.mem_reverse.mp hMem))
    (fun hMem => hOther (List.mem_reverse.mp hMem)) hReversed
  exact ⟨List.reverse_inj.mp hRest, List.reverse_inj.mp hSame⟩

/-- A first field that can be read off before the second one. -/
theorem ReadableAt.pair {second : β → List σ} {follow' : Set (List σ)} {other : β}
    (hFirst : ReadableAt encode follow value) (hSecond : ReadableAt second follow' other)
    (hFollow : ∀ b, ∀ x ∈ follow', second b ++ x ∈ follow) :
    ReadableAt (fun fields : α × β => encode fields.1 ++ second fields.2) follow' (value, other) := by
  rintro ⟨value', other'⟩ x y hx hy hText
  simp only [List.append_assoc] at hText
  obtain ⟨hValue, hRest⟩ := hFirst (hFollow _ _ hx) (hFollow _ _ hy) hText
  obtain ⟨hOther, hTail⟩ := hSecond hx hy hRest
  rw [hValue, hOther]
  exact ⟨rfl, hTail⟩

/-- Words over letters that can be read off one by one, up to a closing symbol that
opens no letter. -/
theorem Readable.closed {close : σ} (hRead : Readable encode Set.univ)
    (hOpens : ∀ letter, ∃ symbol rest, encode letter = symbol :: rest ∧ symbol ≠ close) :
    Readable (fun letters : List α => letters.flatMap encode ++ [close]) Set.univ := by
  intro letters
  induction letters with
  | nil =>
      intro others x y _ _ hText
      cases others with
      | nil => exact ⟨rfl, by simpa using hText⟩
      | cons letter others =>
          obtain ⟨symbol, rest, hLetter, hSymbol⟩ := hOpens letter
          simp only [List.flatMap_nil, List.nil_append, List.flatMap_cons, hLetter,
            List.cons_append, List.cons.injEq] at hText
          exact absurd hText.1.symm hSymbol
  | cons letter letters ih =>
      intro others x y hx hy hText
      cases others with
      | nil =>
          obtain ⟨symbol, rest, hLetter, hSymbol⟩ := hOpens letter
          simp only [List.flatMap_nil, List.nil_append, List.flatMap_cons, hLetter,
            List.cons_append, List.cons.injEq] at hText
          exact absurd hText.1 hSymbol
      | cons other others =>
          simp only [List.flatMap_cons, List.append_assoc] at hText
          obtain ⟨hLetter, hRest⟩ := hRead letter trivial trivial hText
          obtain ⟨hLetters, hTail⟩ := @ih others _ _ hx hy (by simpa using hRest)
          rw [hLetter, hLetters]
          exact ⟨rfl, hTail⟩

section Separated

/-- Texts with a separator between any two. -/
def separated (separator : σ) : List (List σ) → List σ
  | [] => []
  | [text] => text
  | text :: next :: rest => text ++ separator :: separated separator (next :: rest)

variable {separator close : σ}

theorem separated_cons_cons (text next : List σ) (rest : List (List σ)) :
    separated separator (text :: next :: rest) =
      text ++ separator :: separated separator (next :: rest) := rfl

/-- Deleting other symbols than the separator keeps the separation. -/
theorem filter_separated {keep : σ → Bool} (hKeep : keep separator = true)
    (texts : List (List σ)) : (separated separator texts).filter keep =
      separated separator (texts.map (List.filter keep)) := by
  induction texts with
  | nil => rfl
  | cons text rest ih =>
      cases rest with
      | nil => rfl
      | cons next rest =>
          rw [separated_cons_cons, List.filter_append, List.filter_cons_of_pos hKeep, ih]
          rfl

/-- Items up to a closing symbol, each readable before a separator or the close. -/
theorem readableAt_separated (hDistinct : separator ≠ close)
    (hOpens : ∀ item, ∃ symbol rest, encode item = symbol :: rest ∧ symbol ≠ close)
    (items : List α)
    (hRead : ∀ item ∈ items,
      ReadableAt encode (opening fun symbol => symbol = separator ∨ symbol = close) item) :
    ReadableAt (fun items : List α => separated separator (items.map encode) ++ [close])
      Set.univ items := by
  have hSeparator : ∀ x : List σ, separator :: x ∈
      opening fun symbol => symbol = separator ∨ symbol = close := by
    rintro x _ ⟨⟩
    exact .inl rfl
  have hClose : ∀ x : List σ, close :: x ∈
      opening fun symbol => symbol = separator ∨ symbol = close := by
    rintro x _ ⟨⟩
    exact .inr rfl
  have hOpened : ∀ (item : α) (rest : List α) (x : List σ), ∃ symbol text,
      separated separator ((item :: rest).map encode) ++ close :: x = symbol :: text ∧
        symbol ≠ close := by
    intro item rest x
    obtain ⟨symbol, text, hItem, hSymbol⟩ := hOpens item
    cases rest <;> simp [separated, hItem, hSymbol]
  induction items with
  | nil =>
      intro others x y _ _ hText
      simp only [List.append_assoc, List.singleton_append] at hText
      cases others with
      | nil => exact ⟨rfl, by simpa [separated] using hText⟩
      | cons other others =>
          obtain ⟨symbol, text, hOther, hSymbol⟩ := hOpened other others y
          rw [hOther] at hText
          simp only [List.map_nil, separated, List.nil_append, List.cons.injEq] at hText
          exact absurd hText.1.symm hSymbol
  | cons item items ih =>
      intro others x y hx hy hText
      simp only [List.append_assoc, List.singleton_append] at hText
      cases others with
      | nil =>
          obtain ⟨symbol, text, hItem, hSymbol⟩ := hOpened item items x
          rw [hItem] at hText
          simp only [List.map_nil, separated, List.nil_append, List.cons.injEq] at hText
          exact absurd hText.1 hSymbol
      | cons other others =>
          have hItem := hRead item List.mem_cons_self
          -- what follows the first item on either side tells whether there is a second one
          cases items with
          | nil =>
              cases others with
              | nil =>
                  obtain ⟨rfl, hTail⟩ := hItem (hClose x) (hClose y) hText
                  exact ⟨rfl, (List.cons.inj hTail).2⟩
              | cons next others =>
                  simp only [List.map_cons, separated_cons_cons, List.append_assoc,
                    List.cons_append] at hText
                  obtain ⟨-, hTail⟩ := hItem (hClose x) (hSeparator _) hText
                  exact absurd (List.cons.inj hTail).1.symm hDistinct
          | cons following items =>
              cases others with
              | nil =>
                  simp only [List.map_cons, separated_cons_cons, List.append_assoc,
                    List.cons_append] at hText
                  obtain ⟨-, hTail⟩ := hItem (hSeparator _) (hClose y) hText
                  exact absurd (List.cons.inj hTail).1 hDistinct
              | cons next others =>
                  simp only [List.map_cons, separated_cons_cons, List.append_assoc,
                    List.cons_append] at hText
                  obtain ⟨rfl, hTail⟩ := hItem (hSeparator _) (hSeparator _) hText
                  have hItems := ih fun item hMem => hRead item (List.mem_cons_of_mem _ hMem)
                  obtain ⟨hRest, hEnd⟩ := @hItems (next :: others) _ _ hx hy
                    (by simpa using (List.cons.inj hTail).2)
                  rw [hRest]
                  exact ⟨rfl, hEnd⟩

end Separated

end Readability

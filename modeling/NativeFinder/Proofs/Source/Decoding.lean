import NativeFinder.Proofs.Declaration.LineBreaks
import NativeFinder.Proofs.Source.Gathering
import NativeFinder.Proofs.Success
import NativeFinder.Source.Loader

/-!
# The same bytes from a file and from the web

Bytes that are well-formed UTF-8 have one text, and both loaders find it. But the loader of files
makes its line breaks one (`load_files_eq_texts`), and the loader of the web leaves them as they are
(`load_web_eq_texts`). `load_same_bytes` says what becomes of the entries: they agree only if no
description holds a carriage return, and unless a native is hidden by one, whenever that is so.
`exists_entries_differing` shows that they differ for either kind of line break.
-/

namespace NativeFinder

/-! ### Decoding -/

namespace Utf8

theorem decodeLossyFrom_eq_of_decodeFrom_eq_ok {position fuel : Nat} {bytes : Bytes} {text : Text}
    (h : decodeFrom position fuel bytes = .ok text) : decodeLossyFrom fuel bytes = text := by
  induction fuel generalizing position bytes text with
  | zero => exact Except.ok.inj h
  | succ fuel ih =>
    cases bytes with
    | nil => exact Except.ok.inj h
    | cons b rest =>
      rw [decodeFrom] at h
      rw [decodeLossyFrom]
      cases hhead : readHead b rest with
      | bad length fault => simp [hhead] at h
      | char c after =>
        simp only [hhead] at h ⊢
        obtain ⟨more, hmore, heq⟩ := exists_of_map_eq_ok h
        rw [ih hmore]
        exact heq

/-- Bytes that are well formed are read alike, with and without replacements. -/
theorem decodeLossy_eq_of_decode_eq_ok {bytes : Bytes} {text : Text} (h : decode bytes = .ok text) :
    decodeLossy bytes = text :=
  decodeLossyFrom_eq_of_decodeFrom_eq_ok h

end Utf8

namespace Response

variable {r : Response} {text : Text}

/-- A response in UTF-8 has the text of its bytes. -/
theorem text_eq (hdecode : Utf8.decode r.content = .ok text)
    (hcharset : ∀ name ∈ r.contentType.bind charset?, name ∉ latin1Names) : r.text = text := by
  rw [Response.text, Utf8.decodeLossy_eq_of_decode_eq_ok hdecode]
  split
  · rename_i name hname
    rw [if_neg (by simpa using hcharset name hname)]
  · rfl

end Response

/-! ### One source -/

namespace Loader

variable {files : FileTree} {web : Web} {path url text : Text} {r : Response}

theorem load_files_eq_texts {bytes : Bytes} (hfile : files.read path = .ok bytes)
    (hdecode : Utf8.decode bytes = .ok text) :
    ((Loader.files [path]).load files web).1 = .texts [text.normalizeNewlines] := by
  have hread : LocalSource.read files path = .ok text.normalizeNewlines := by
    simp only [LocalSource.read, hfile, hdecode]
  have hall : LocalSource.readAll files [path] = .ok [text.normalizeNewlines] := by
    simp [LocalSource.readAll, hread]
  rw [load, hall]

theorem load_web_eq_texts (hweb : (web url).outcome = .response r) (hstatus : r.status = 200) :
    ((Loader.web [.text url]).load files web).1 = .texts [r.text] := by
  have hresult : Retrieval.ofOutcome (web url).outcome = .text r.text := by
    rw [hweb, Retrieval.ofOutcome, Retrieval.ofResponse, Response.isSuccess, hstatus]
    rfl
  have htarget : Fetch.target? (web url).outcome = none := by
    rw [hweb, Fetch.target?, Response.redirection?, hstatus]
    rfl
  have hfetch : Fetch.ofSource web (some WebLoad.redirectionLimit) (.text url) =
      Fetch.stay web 0 url (.text r.text) := by
    rw [Fetch.ofSource, WebLoad.redirectionLimit, Fetch.follow, htarget, hresult]
  have htransfers : WebLoad.transfersOf web (some WebLoad.redirectionLimit) [.text url] =
      [.ofFetch (.text url) (Fetch.stay web 0 url (.text r.text))] := by
    rw [WebLoad.transfersOf, List.map_singleton, hfetch]
  have hu : Gathering.Uninterrupted
      (WebLoad.transfersOf web (some WebLoad.redirectionLimit) [.text url]) := by
    rw [htransfers]
    simp [Gathering.Uninterrupted, Transfer.ofFetch, Fetch.stay]
  rw [load]
  dsimp only
  rw [(WebLoad.run_eq_collect hu).1, htransfers]
  rfl

/-! ### Both sources -/

/-- **The same bytes from a file and from the web.** Let the bytes be UTF-8, and let the web answer
with them and with success, in a character set that is not declared to be another one. Then both
loaders find the text of the bytes, the one with its line breaks made one, the other as it is. If
the entries are the same, no description holds a carriage return; and unless a native is hidden by
one, this is enough. -/
theorem load_same_bytes (hdecode : Utf8.decode r.content = .ok text)
    (hfile : files.read path = .ok r.content) (hweb : (web url).outcome = .response r)
    (hstatus : r.status = 200)
    (hcharset : ∀ name ∈ r.contentType.bind Response.charset?, name ∉ Response.latin1Names) :
    ((Loader.files [path]).load files web).1 = .texts [text.normalizeNewlines] ∧
      ((Loader.web [.text url]).load files web).1 = .texts [text] ∧
      (Entry.ofTexts [text.normalizeNewlines] = Entry.ofTexts [text] →
        ∀ e ∈ Entry.ofTexts [text], '\r' ∉ e.description) ∧
      (¬ HasHiddenNative text → (∀ e ∈ Entry.ofTexts [text], '\r' ∉ e.description) →
        Entry.ofTexts [text.normalizeNewlines] = Entry.ofTexts [text]) :=
  ⟨load_files_eq_texts hfile hdecode,
    Response.text_eq hdecode hcharset ▸ load_web_eq_texts hweb hstatus,
    ofText_normalizeNewlines text⟩

/-- A folder with one file. -/
def folderOf (text : Text) : FileTree :=
  (FileTree.empty ["work"]).add ["work", "a.j"] (.file (Utf8.encode text))

/-- A web that answers every request with a text. -/
def webOf (text : Text) : Web := fun _ => ⟨.response ⟨200, Utf8.encode text, none, none⟩, 0⟩

/-- Line breaks of two characters before the first comment make no difference. -/
theorem load_same_bytes_of_returns :
    let text : Text := "//\x0d\n/** a */\nnative A takes nothing returns nothing"
    ((Loader.files ["a.j"]).load (folderOf text) (webOf text)).1 = .texts [text.normalizeNewlines] ∧
      ((Loader.web [.text "u"]).load (folderOf text) (webOf text)).1 = .texts [text] ∧
      Entry.ofTexts [text.normalizeNewlines] = Entry.ofTexts [text] := by
  intro text
  have hhidden : ¬ HasHiddenNative text := by
    rintro ⟨before, blanks, after, htext, -⟩
    have hinfix : '\r' :: Declaration.nativeWord <:+: text :=
      ⟨before ++ Piece.closing ++ blanks, after, by simp [htext]⟩
    exact absurd hinfix (by decide)
  have hreturn : ∀ e ∈ Entry.ofTexts [text], '\r' ∉ e.description := by decide +kernel
  obtain ⟨hlocal, hremote, -, hsame⟩ := @load_same_bytes (folderOf text) (webOf text) "a.j" "u" text
    ⟨200, Utf8.encode text, none, none⟩ (by decide +kernel) (by decide +kernel) rfl rfl (by simp)
  exact ⟨hlocal, hremote, hsame hhidden hreturn⟩

/-- **The loaders do not agree** about a line break of two characters inside of a description, nor
about a lone carriage return before a declaration: then only the loader of files finds the
native. -/
theorem exists_entries_differing :
    let line : Text := "native A takes nothing returns nothing"
    let feed : Text := "/** a */\n" ++ line
    let pair : Text := "/** a */\x0d\n" ++ line
    let lone : Text := "/** a */\x0d" ++ line
    (((Loader.files ["a.j"]).load (folderOf pair) (webOf pair)).1 = .texts [feed] ∧
      ((Loader.web [.text "u"]).load (folderOf pair) (webOf pair)).1 = .texts [pair] ∧
      (Entry.ofTexts [feed]).map Entry.description = [feed] ∧
      (Entry.ofTexts [pair]).map Entry.description = [pair] ∧ pair ≠ feed) ∧
    ((Loader.files ["a.j"]).load (folderOf lone) (webOf lone)).1 = .texts [feed] ∧
      ((Loader.web [.text "u"]).load (folderOf lone) (webOf lone)).1 = .texts [lone] ∧
      Entry.ofTexts [lone] = [] := by
  intro line feed pair lone
  have hpair : ((Loader.web [.text "u"]).load (folderOf pair) (webOf pair)).1 = .texts [pair] :=
    (@load_web_eq_texts _ _ _ ⟨200, Utf8.encode pair, none, none⟩ rfl rfl).trans (by decide +kernel)
  have hlone : ((Loader.web [.text "u"]).load (folderOf lone) (webOf lone)).1 = .texts [lone] :=
    (@load_web_eq_texts _ _ _ ⟨200, Utf8.encode lone, none, none⟩ rfl rfl).trans (by decide +kernel)
  exact ⟨⟨by decide +kernel, hpair, by decide +kernel, by decide +kernel, by decide⟩,
    by decide +kernel, hlone, by decide +kernel⟩

end Loader

end NativeFinder

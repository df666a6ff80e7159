import AgentFiles.Json.Codec

/-!
# Stored files

A stored file is one saved file with what the user said about it. Older stores hold snippets of
several fragments, of which only the first becomes a file.
-/

namespace AgentFiles

open Json

structure StoredFile where
  id : String := ""
  fileName : String := ""
  content : String := ""
  language : String := ""
  description : String := ""
  updatedAt : String := ""
  expiryDate : Option String := none
  fileType : String := ""
  shareCount : Option Int := none
  isPublic : Int := 0
  isPinned : Int := 0
  isFavorite : Int := 0
  username : Option String := none
deriving DecidableEq, Repr

structure Fragment where
  id : Option String := none
  fileName : String := ""
  code : String := ""
  language : String := ""
  position : Int := 0
deriving DecidableEq, Repr

structure Snippet where
  id : String := ""
  title : String := ""
  description : String := ""
  updatedAt : String := ""
  expiryDate : Option String := none
  categories : List String := []
  fragments : List Fragment := []
  shareCount : Option Int := none
  isPublic : Int := 0
  isPinned : Int := 0
  isFavorite : Int := 0
  username : Option String := none
deriving DecidableEq, Repr

namespace StoredFile

def record : Record StoredFile where
  name := "ClaudeFile"
  fields := [
    .mandatory "id" .text (·.id) (fun v f => { f with id := v }),
    .mandatory "file_name" .text (·.fileName) (fun v f => { f with fileName := v }),
    .mandatory "content" .text (·.content) (fun v f => { f with content := v }),
    .mandatory "language" .text (·.language) (fun v f => { f with language := v }),
    .mandatory "description" .text (·.description) (fun v f => { f with description := v }),
    .mandatory "updated_at" .text (·.updatedAt) (fun v f => { f with updatedAt := v }),
    .optional "expiry_date" .text (·.expiryDate) (fun v f => { f with expiryDate := v }),
    .mandatory "file_type" .text (·.fileType) (fun v f => { f with fileType := v }),
    .optional "share_count" .unsigned32 (·.shareCount) (fun v f => { f with shareCount := v }),
    .mandatory "is_public" .signed64 (·.isPublic) (fun v f => { f with isPublic := v }),
    .mandatory "is_pinned" .signed64 (·.isPinned) (fun v f => { f with isPinned := v }),
    .mandatory "is_favorite" .signed64 (·.isFavorite) (fun v f => { f with isFavorite := v }),
    .optional "username" .text (·.username) (fun v f => { f with username := v })]
  blank := {}

def codec : Codec StoredFile :=
  record.codec

end StoredFile

namespace Fragment

def record : Record Fragment where
  name := "CodeFragment"
  fields := [
    .optional "id" .text (·.id) (fun v f => { f with id := v }),
    .mandatory "file_name" .text (·.fileName) (fun v f => { f with fileName := v }),
    .mandatory "code" .text (·.code) (fun v f => { f with code := v }),
    .mandatory "language" .text (·.language) (fun v f => { f with language := v }),
    .mandatory "position" .unsigned32 (·.position) (fun v f => { f with position := v })]
  blank := {}

def codec : Codec Fragment :=
  record.codec

end Fragment

namespace Snippet

def record : Record Snippet where
  name := "Snippet"
  fields := [
    .mandatory "id" .text (·.id) (fun v s => { s with id := v }),
    .mandatory "title" .text (·.title) (fun v s => { s with title := v }),
    .mandatory "description" .text (·.description) (fun v s => { s with description := v }),
    .mandatory "updated_at" .text (·.updatedAt) (fun v s => { s with updatedAt := v }),
    .optional "expiry_date" .text (·.expiryDate) (fun v s => { s with expiryDate := v }),
    .defaulted "categories" (.list .text) (·.categories)
      (fun v s => { s with categories := v }),
    .defaulted "fragments" (.list Fragment.codec) (·.fragments)
      (fun v s => { s with fragments := v }),
    .optional "share_count" .unsigned32 (·.shareCount) (fun v s => { s with shareCount := v }),
    .mandatory "is_public" .signed64 (·.isPublic) (fun v s => { s with isPublic := v }),
    .mandatory "is_pinned" .signed64 (·.isPinned) (fun v s => { s with isPinned := v }),
    .mandatory "is_favorite" .signed64 (·.isFavorite) (fun v s => { s with isFavorite := v }),
    .optional "username" .text (·.username) (fun v s => { s with username := v })]
  blank := {}

def codec : Codec Snippet :=
  record.codec

end Snippet

namespace StoredFile

/-- The file of a snippet's first fragment. A fragment without a name takes the snippet's title, and
its language stands for the type until the file is tagged. -/
def ofSnippet? (snippet : Snippet) : Option StoredFile :=
  snippet.fragments.head?.map fun fragment =>
    { id := snippet.id
      fileName := if fragment.fileName = "" then snippet.title else fragment.fileName
      content := fragment.code
      language := fragment.language
      description := snippet.description
      updatedAt := snippet.updatedAt
      expiryDate := snippet.expiryDate
      fileType := fragment.language
      shareCount := snippet.shareCount
      isPublic := snippet.isPublic
      isPinned := snippet.isPinned
      isFavorite := snippet.isFavorite
      username := snippet.username }

/-- A snippet with the file as its only fragment and the file's type as its only category. -/
def toSnippet (file : StoredFile) : Snippet :=
  { id := file.id
    title := file.fileName
    description := file.description
    updatedAt := file.updatedAt
    expiryDate := file.expiryDate
    categories := [file.fileType]
    fragments :=
      [{ fileName := file.fileName, code := file.content, language := file.language }]
    shareCount := file.shareCount
    isPublic := file.isPublic
    isPinned := file.isPinned
    isFavorite := file.isFavorite
    username := file.username }

/-- How many files there are of each type, in the order of the types. -/
def tally (files : List StoredFile) : List (String × Nat) :=
  files.foldl
    (fun counts file =>
      Keyed.insert file.fileType ((Keyed.find? file.fileType counts).getD 0 + 1) counts) []

end StoredFile
end AgentFiles

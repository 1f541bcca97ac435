import FieldMask.Engine
import FieldMask.Text.Utf8

/-!
# `FieldMask.Stream`: documents that come in chunks

A document can come in chunks, and its source can fail before it ends. `Stream.mask` collects the
chunks, masks the document that they form and gives its bytes, or else reports one problem and
gives nothing. `Stream.transform` is the same for a source that does not fail, and lets the
failure of the engine through.
-/

set_option autoImplicit false

namespace FieldMask

/-- A piece of a document. -/
inductive Chunk where
  | text (t : Text)
  | bytes (b : Bytes)
  deriving DecidableEq, Repr

/-- The bytes of a piece. -/
def Chunk.toBytes : Chunk → Bytes
  | .text t => Utf8.encode t
  | .bytes b => b

/-- A source of pieces, which may fail after the last of them. -/
structure Source where
  chunks : List Chunk
  failure : Option Text
  deriving DecidableEq, Repr

/-- What comes of a masked stream. -/
structure StreamRun where
  output : Option Bytes
  problems : List Text
  tally : Tally
  log : List LogLine
  deriving DecidableEq

/-- What comes of a masking transform. -/
structure TransformRun where
  result : Except Failure Bytes
  tally : Tally
  log : List LogLine
  deriving DecidableEq

namespace Stream

/-- The bytes of pieces in order. -/
def collect (chunks : List Chunk) : Bytes := chunks.flatMap Chunk.toBytes

/-- The problem that the source failed. -/
def readProblem (failure : Text) : Text := ("Failed to read input stream: " : Text) ++ failure

/-- The problem that the engine refused the document. -/
def maskProblem (f : Failure) : Text := ("Data masking failed: " : Text) ++ f.message

/-- Masks the document that pieces form. -/
def transform (e : Engine) (chunks : List Chunk) (tally : Tally) : TransformRun :=
  let run := e.maskDocument (Utf8.decode (collect chunks)) tally
  ⟨run.result.map Utf8.encode, run.tally, run.log⟩

/-- Masks the document that a source gives. -/
def mask (e : Engine) (source : Source) (tally : Tally) : StreamRun :=
  match source.failure with
  | some failure => ⟨none, [readProblem failure], tally, []⟩
  | none =>
    let run := transform e source.chunks tally
    match run.result with
    | .ok bytes => ⟨some bytes, [], run.tally, run.log⟩
    | .error f => ⟨none, [maskProblem f], run.tally, run.log⟩

end Stream

end FieldMask

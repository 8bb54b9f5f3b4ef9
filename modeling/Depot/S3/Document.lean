import Depot.Client.Call
import Depot.S3.Markup

/-!
The documents that requests and responses carry: listings, batch deletions and their failures, and
the parts that complete an upload.
-/

namespace Depot.S3.Document

open Markup

/-- The texts of the first inner element of each element. -/
def innerTexts (text outer inner : String) : List String :=
  (elements text outer).filterMap fun body => (first? body inner).map unescape

/-- Read a page of a listing. Only a page that says it is truncated has a continuation. -/
def readListing (text : String) : ListingPage where
  keys := innerTexts text "Contents" "Key"
  commonLeads := innerTexts text "CommonPrefixes" "Prefix"
  continuation :=
    if first? text "IsTruncated" = some "true" then
      (first? text "NextContinuationToken").map unescape
    else none

/-- The document that asks to delete keys and to report only what fails. -/
def deletion (keys : List String) : String :=
  element "Delete" (element "Quiet" "true" ++
    String.join (keys.map fun key => element "Object" (element "Key" (escape key))))

/-- The keys that could not be deleted, each with the code of its failure. -/
def readFailures (text : String) : List (String × String) :=
  (elements text "Error").filterMap fun body =>
    (first? body "Key").map fun key => (unescape key, (first? body "Code").getD "Unknown")

/-- The document that completes an upload from its parts, by number and tag. -/
def completion (parts : List (Nat × String)) : String :=
  element "CompleteMultipartUpload" (String.join (parts.map fun (number, tag) =>
    element "Part" (element "PartNumber" (toString number) ++ element "ETag" (escape tag))))

end Depot.S3.Document

import TextSearch.LittleEndian.Lemmas
import TextSearch.Main
import TextSearch.Query.RequestJson
import TextSearch.Storage.Disk
import TextSearch.Proofs.CursorSeek
import TextSearch.Proofs.SharedDocuments
import TextSearch.Proofs.IntersectionRuns
import TextSearch.Proofs.InterleavedCalls
import TextSearch.Proofs.LoadedIndexes
import TextSearch.Proofs.SearchPages
import TextSearch.Proofs.DocumentPostings
import TextSearch.Proofs.BuilderRuns
import TextSearch.Proofs.BuildThenSearch
import TextSearch.Proofs.ReaderRuns
import TextSearch.Proofs.Utf8Decoding
import TextSearch.Proofs.ReaderForms
import TextSearch.Proofs.IndexFiles
import TextSearch.Proofs.AttributeFiles
import TextSearch.Proofs.KeptColumns
import TextSearch.Proofs.DiskWrites
import TextSearch.Proofs.SavedFiles
import TextSearch.Proofs.StoredSearches
import TextSearch.Proofs.IndexGrammar
import TextSearch.Proofs.CutIndexFiles
import TextSearch.Proofs.LoadChecks
import TextSearch.Proofs.BuilderHistories
import TextSearch.Proofs.BuiltPostings
import TextSearch.Proofs.CanonicalColumns
import TextSearch.Proofs.CanonicalIndexes
import TextSearch.Proofs.KeptHits
import TextSearch.Proofs.RefusedRows
import TextSearch.Proofs.PayloadRecords
import TextSearch.Proofs.UntrustedBytes
import TextSearch.Proofs.FilterMaps
import TextSearch.Proofs.FilterTexts
import TextSearch.Proofs.StoredCounts
import TextSearch.Proofs.AllowedSets
import TextSearch.Proofs.ColumnFilters
import TextSearch.Proofs.RequestPairs
import TextSearch.Proofs.XmlReplies
import TextSearch.Proofs.XmlDocuments
import TextSearch.Proofs.JsonReplies
import TextSearch.Proofs.JsonIntegers
import TextSearch.Proofs.FloatNumerals
import TextSearch.Proofs.PageNumbers
import TextSearch.Proofs.JsonArrays
import TextSearch.Proofs.NearestSingles
import TextSearch.Proofs.FloatFilters
import TextSearch.Proofs.UnsignedNumerals
import TextSearch.Proofs.KeptWords
import TextSearch.Proofs.LineResults
import TextSearch.Proofs.MultimapHistories
import TextSearch.Proofs.ReaderHistories

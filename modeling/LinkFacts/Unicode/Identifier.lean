import LinkFacts.Unicode.Table

/-!
# Identifier characters

The characters that may start and continue a name.
-/

namespace LinkFacts
namespace Unicode

/-- Runs that start a name, `S`, that only continue one, `C`, and that do neither, `N`. -/
def identifierLines : List String :=
  ["30NaC7N1aS4N1C1N1aS2fN1SaN1S1N1C2N1S5N17S1N1fS1N1caS4NcSeN5S7N1S1N1S11N70C5S1N2S3N3S1N1S6N1S",
    "1C3S1N1S1N14S1N53S1N8bS1N5C2Na6S1N26S2N1S6N29S8N2dC1N1C1N2C1N2C1N1C8N1bS4N4S1dNbC5N2bS1fC4N2",
    "S1C63S1N1S7C2N6C2S2C1N4C2SaC3S2N1S10N1S1C1eS1bC2N59SbC1SeNaC21S9C2S4N1S2N1C2N16S4C1S9C1S3C1S",
    "5C12N19S3C4NbS5N18S1N6S9N8C2aS18C1N21C36S3C1S12C1S7CaS2C2NaC1N10S3C1N8S2N2S2N16S1N7S1N1S3N4S",
    "2N1C1S7C2N2C2N3C1S8N1C4N2S1N3S2C2NaC2SaN1S1N1C2N3C1N6S4N2S2N16S1N7S1N2S1N2S1N2S2N1C1N5C4N2C2",
    "N3C3N1C7N4S1N1S7NcC3S1CbN3C1N9S1N3S1N16S1N7S1N2S1N5S2N1C1S8C1N3C1N3C2N1SfN2S2C2NaC9N1S6C1N3C",
    "1N8S2N2S2N16S1N7S1N2S1N5S2N1C1S7C2N2C2N3C7N3C4N2S1N3S2C2NaC1N1S10N1C1S1N6S3N3S1N4S3N2S1N1S1N",
    "2S3N2S3N3S3NcS4N5C3N3C1N4C2N1S6N1CeNaC10N5C8S1N3S1N17S1N10S2N1C1S7C1N3C1N4C7N2C1N3S2N1S2N2S2",
    "C2NaC10N1S3C1N8S1N3S1N17S1NaS1N5S2N1C1S7C1N3C1N4C7N2C6N2S1N2S2C2NaC1N2S1CcN4C9S1N3S1N29S2C1S",
    "7C1N3C1N4C1S5N3S1C7N3S2C2NaCaN6S1N3C1N12S3N18S1N9S1N1S2N7S3N1C4N6C1N1C1N8C6NaC2N2CdN30S1C1S8",
    "C5N7S8C1NaC27N2S1N1S1N5S1N18S1N1S1NaS1C1SaC1S2N5S1N1S1N7C1NaC2N4S20N1S17N2C6NaCbN1C1N1C1N1C4",
    "N2C8S1N24S4N14C1N2C5SbC1N24C9N1C39N2bS14C1SaC6N6S4C4S3C1S3C2S7C3S4CdScC1SfC2N26S1N1S5N1S2N2b",
    "S1N14dS1N4S2N7S1N1S1N4S2N29S1N4S2N21S1N4S2N7S1N1S1N4S2NfS1N39S1N4S2N43S2N3C9N9CeN10S10N56S2N",
    "6S3N26cS2N11S1N1aS5N4bS3NbS7N12S4C9N13S3CbN12S2CcNdS1N3S1N2CcN34S20C3N1S4N1S1C2NaC21N3C1NbC6",
    "N59S7N29S1C1S5N46SaN1fS1NcC4NcCaNaC1eS2N5SbN2cS4N1aS6NbC25N17S5C4N35SaC1N1dC2NbC6NaCdN1S8NeC",
    "1N10C31N5C2fS11C8S3NaC11N9CcN3C1eSdC2SaC2cSeCcN24S14C8NaC3N3SaC24S2N9S7N2bS2N3S10N3C1N15C4S1",
    "C6S1C2S3C1S5Nc0S40C116S2N6S2N26S2N6S2N8S1N1S1N1S1N1S1N1fS2N35S1N7S1N1S3N3S1N7S3N4S2N6S4NdS5N",
    "3S1N7S42N2C13N1C1cN1SdN1S10NdS33NdC4N1C3NcC11N1S4N1S2NaS1N1S2N6S6N1S1N1S1N1S1N10S2N4S5N5S4N1",
    "S11N29Sa77Ne5S6N4S3C2ScN26S1N1S5N1S2N38S7N1SfN1C17S9N7S1N7S1N7S1N7S1N7S1N7S1N7S1N7S1N20C205N",
    "3S19N9S6C1N5S2N5S4N56S2N2C2N3S1N5aS1N4S5N2bS1N5eS11N20S30N10S200N19c0S40N568dS43N2eS2N10dS3N",
    "10SaC2S14N2fS1C4NaC1N1fS2C50S2C25N9S2N67S2N40S5N2S1N1S1N5S18N10S1C3S1C4S1C17S5C4N1C13N34ScN2",
    "C32S12CaNaC6N12C6S3N1S1N2SbC1cS8C2N17SdCcN1dS3N4C2fSeCeN1SaC6N5S1CaSaC5S1N29SeC9N3S1C8S2C2Na",
    "C6N17S3N1S3C32S1C1S3C2S2C5S2C1S1C1S18N3S2NbS5C2N3S2CaN6S2N6S2N6S9N7S1N7S1N2bS1NeS6N73S8C1N2C",
    "2NaC6N2ba4ScN17S4N31S2104N16eS2N6aS26N7ScN5S5N1S1CaS1NdS1N5S1N1S1N2S1N2S1N6cS21N8bS6NdaS12N4",
    "0S2N36S28NaS6N10C10N10C3N2C18N3C21N1S1N1S3N1S1N1S1N1S1N1S1N7eS13NaC7N1aS4N1C1N1aSbN38S2C1fS3",
    "N6S2N6S2N6S2N3S23NcS1N1aS1N13S1N2S1NfS2NeS22N7bS45N35S88N1C82N1dS3N31SfN1C1fN20SdN1eS5N26S5C",
    "5N1eS2N24S4N8S1N5S2aN9eS2NaC6N24S4N24S4N28S8N34ScNbS1NfS1N7S1N2S1NbS1NfS1N7S1N2S43N137S9N16S",
    "aN8S18N6S1N2aS1N9S45N6S2N1S1N2cS1N2S3N1S2N17SaN17S9N1fS41N13S1N2SaN16SaN1aS46N38S6N2S40N1S3C",
    "1N2C5N4C4S1N3S1N1dS2N3C4N1C20N1dS3N1dS23N8S1N1cS2C19N36SaN16SaN13SdN12S6eN49S37N33SdN33SdN24",
    "S4C8NaC146N2aS1N2C3N2S4bN3C1dSaN1S8N16SbC1fN12S4C2aN15S1bN17S9N3C35SfC1fNbC2S2C1S9N4C2dSbC7N",
    "1CdN19S7NaC6N3C24SeC1NaC4N1S2C1S8N23S1C2N1S9N3C30SeC4S4N4C1NcC1S1N1S23N12S1N19ScC6N1C2S1C3eN",
    "7S1N1S1N4S1NfS1NaS7N2fScC5NaC6N4C1N8S2N2S2N16S1N7S1N2S1N5S1N2C1S7C2N2C2N3C2N1S6N1C5N5S2C2N7C",
    "3N5C8bN35S12C4S5NaC4N1C3S1eN30S14C2S1N1S8NaCa6N2fS7C2N9C17N4S2C22N30S11C3N1SbNaC26N2bSdC1S7N",
    "aC36N1bS2NfC4NaC6N7Sb9N2cSfC65N40SaC15N8S2N1S2N8S1N2S1N18S6C1N2C2N4C1S1C1S2CcNaC46N8S2N27S7C",
    "2N7C1S1N1S1C1bN1SaC28S7C1S4C8N1C8N1SbC2eS10C3N1S12N49S107N9S1N25S8C1N8C1SfNaC18N1eS2N16C1NeC",
    "49N7S1N2S1N26S6C3N1C1N2C1N7C1S1C8NaC6N6S1N2S1N20S5C1N2C1N5C1S7NaC136N13S4C9N2C1S1CdS1N22S7C3",
    "N5CdNaC56N1S4fN39aS66N6fS11Nc4Sa4cN61SfN430S10N1C6SfCfaaN247S21b9N239S7N1fS1NaC6N4fS1NaC6N1e",
    "S2N5CbN30S7C9N4ScNaC9N15S5N13S2b0N40S80N4bS4N1C1S37C7N4CdS40N2S1N1S1CbN2CeN17f8S8N4d6S2aN9S2",
    "2e7N4S1N7S1N2S1N123SfN1S1dN3S2N1SeN4S8N18cS904N6bS5NdS3N9S7NaS3N2C1261N2eC2N17C21eN5C3N6C8N8",
    "C2N7C1eN4C94N3C1bbN55S1N47S1N2S2N1S2N2S2N4S1NcS1N1S1N7S1N41S1N4S2N8S1N7S1N1cS1N4S1N5S1N1S3N7",
    "S1N154S2N19S1N19S1N1fS1N19S1N1fS1N19S1N1fS1N19S1N1fS1N19S1N8S2N32C200N37C4N32C8N1CeN1C16N5C1",
    "NfC450N1fS6N6Sd5N7C1N11C2N7C1N2C1N5C5N3eS21N1C70N2dS3N7C7S2NaC4N1S141N1eS1C11N2cSeC1d6N1cSeC",
    "2e6N7S1N4S1N2S1NfS1Nc5SbN7C29N44S7C1S4NaC4a6N4S1N1bS1N2S1N1S2N1S1NaS1N4S1N1S1N1S6N1S4N1S1N1S",
    "1N1S1N3S1N2S1N1S2N1S1N1S1N1S1N1S1N1S1N2S1N1S2N4S1N7S1N4S1N4S1N1S1NaS1N11S5N3S1N5S1N11Sd34NaC",
    "406Na6e0S20N103aS6NdeS2N1682SeN1d31Sc1fN21eS5e2N134bS5N1060Sadd50Nf0C2fe10N"]

/-- The characters that start a name, that only continue one, and all others. -/
def identifierTable : Table := Table.ofLines identifierLines

/-- A character that may start a name. -/
def startsName (c : Char) : Bool :=
  if Text.isAscii c then Text.isLetter c else identifierTable.kindOf c == 'S'

/-- A character that may stand in a name after the first. -/
def continuesName (c : Char) : Bool :=
  if Text.isAscii c then Text.isAlphanumeric c || c == '_'
  else identifierTable.kindOf c == 'S' || identifierTable.kindOf c == 'C'

end Unicode
end LinkFacts

/-
This file tells which characters are used with several scripts, as of Unicode 16.
-/

import Graft.Character.Script

namespace Graft.Character

/-- The scripts that characters are used with, and the lengths of the gaps and runs of these
characters. -/
def scriptExtensionRows : List (String × String) := [
  ("avst cari copt dupl elba geor glag gong goth grek hani latn lydi mahj perm shaw", "b7 1"),
  ("beng cyrl deva latn lisu thai toto", "2bc 1"),
  ("bopo latn", "2c7 1 1 3 d 1"),
  ("latn lisu", "2cd 1"),
  ("latn thai", "2d7 1"),
  ("cher copt cyrl grek latn perm sunu tale", "300 1"),
  ("cher cyrl grek latn osge sunu tale todr", "301 1"),
  ("cher cyrl latn tfng", "302 1"),
  ("glag latn sunu syrc thai", "303 1"),
  ("aghb cher copt cyrl goth grek latn osge syrc tfng todr", "304 1"),
  ("copt elba glag goth kana latn", "305 1"),
  ("cyrl grek latn perm tfng", "306 1"),
  ("copt dupl hebr latn perm syrc tale tfng todr", "307 1"),
  ("armn cyrl dupl goth grek hebr latn perm syrc tale tfng", "308 1"),
  ("latn tfng", "309 1"),
  ("dupl latn syrc", "30a 1"),
  ("cher cyrl latn osge", "30b 1"),
  ("cher latn tale", "30c 1"),
  ("latn sunu", "30d 1 2 1"),
  ("ethi latn", "30e 1"),
  ("cyrl latn todr", "311 1"),
  ("grek latn perm todr", "313 1"),
  ("cher dupl kana latn syrc tfng", "323 1"),
  ("cher dupl latn syrc", "324 1"),
  ("latn syrc", "325 1 8 1"),
  ("latn sunu syrc", "32d 1"),
  ("cher latn syrc", "330 1"),
  ("aghb cher goth latn sunu syrc thai", "331 1"),
  ("grek", "342 1 2 1 1a7a 2"),
  ("latn osge", "358 1"),
  ("aghb latn todr", "35e 1"),
  ("latn", "363 d"),
  ("copt grek", "374 2"),
  ("cyrl perm", "483 1"),
  ("cyrl glag", "484 1 2 1 29bb 1 782b 1"),
  ("cyrl latn", "485 2"),
  ("armn geor glag", "589 1"),
  ("arab gara nkoo rohg syrc thaa yezi", "60c 1 e 1"),
  ("arab syrc thaa", "61c 1"),
  ("adlm arab gara nkoo rohg syrc thaa yezi", "61f 1"),
  ("adlm arab mand mani ougr phlp rohg sogd syrc", "640 1"),
  ("arab syrc", "64b b 1a 1"),
  ("arab thaa yezi", "660 a"),
  ("arab rohg", "6d4 1"),
  ("beng deva gran gujr guru knda latn mlym nand newa orya shrd taml telu tirh", "951 1"),
  ("beng deva gran gujr guru knda latn mlym newa orya taml telu tirh", "952 1"),
  ("beng deva dogr gong gonm gran gujr guru knda mahj mlym nand onao orya sind sinh sylo " ++
    "takr taml telu tirh",
    "964 1"),
  ("beng deva dogr gong gonm gran gujr gukh guru knda limb mahj mlym nand onao orya sind " ++
    "sinh sylo takr taml telu tirh",
    "965 1"),
  ("deva dogr kthi mahj", "966 a"),
  ("beng cakm sylo", "9e6 a"),
  ("guru mult", "a66 a"),
  ("gujr khoj", "ae6 a"),
  ("gran taml", "be6 e 1070d 1 1 1 37 2 c93 2 1 1"),
  ("knda nand tutg", "ce6 a"),
  ("cakm mymr tale", "1040 a"),
  ("geor glag latn", "10fb 1"),
  ("runr", "16eb 3"),
  ("buhd hano tagb tglg", "1735 2"),
  ("mong phag", "1802 2 1 1"),
  ("beng deva gran knda", "1cd0 1 1 1"),
  ("deva", "1cd1 1 2 1 6 1 2 2 3 6 3 1 1 4"),
  ("deva gran knda", "1cd3 1"),
  ("beng deva newa telu tirh", "1cd5 1"),
  ("beng deva telu", "1cd6 1"),
  ("deva newa shrd", "1cd7 1"),
  ("beng deva newa telu", "1cd8 1"),
  ("deva shrd", "1cd9 1 2 2 2 1"),
  ("deva knda mlym orya taml telu", "1cda 1"),
  ("beng deva", "1ce1 1 13 2"),
  ("deva newa tirh", "1ce2 1"),
  ("deva nand newa", "1ce9 1"),
  ("beng deva shrd", "1cea 1"),
  ("deva newa", "1ceb 1"),
  ("beng deva newa shrd", "1ced 1"),
  ("beng deva gran knda mlym nand orya sinh telu tirh tutg", "1cf2 1"),
  ("deva gran", "1cf3 1 4 2"),
  ("deva gran knda tutg", "1cf4 1"),
  ("beng", "1cf7 1"),
  ("nand", "1cfa 1"),
  ("cyrl latn syrc", "1df8 1"),
  ("syrc", "1dfa 1"),
  ("latn mong phag", "202f 1"),
  ("adlm arab", "204f 1"),
  ("cari geor glag hung lyci orkh", "205a 1"),
  ("cari grek hung mero", "205d 1"),
  ("deva gran latn", "20f0 1"),
  ("copt latn", "2e17 1"),
  ("avst orkh", "2e30 1"),
  ("avst cari geor hung kthi lydi samr", "2e31 1"),
  ("dupl", "2e3c 1 18e63 4"),
  ("adlm arab hung", "2e41 1"),
  ("hani tang", "2ff0 10 1ef 1"),
  ("bopo hang hani hira kana mong yiii", "3001 1"),
  ("bopo hang hani hira kana mong phag yiii", "3002 1"),
  ("bopo hang hani hira kana", "3003 1 f 1 8 4 10 1 6 1 ce0d 2"),
  ("hani", "3006 1 37 2 150 10 20 26 3a 28 38 31 f c 33 1 58 19 a 5 60 1f 19f61 12 1ede 2"),
  ("bopo hang hani hira kana mong tibt yiii", "3008 2"),
  ("bopo hang hani hira kana lisu mong tibt yiii", "300a 2"),
  ("bopo hang hani hira kana yiii", "300c 6 2 8 df 1 ce65 5"),
  ("bopo hani", "302a 4"),
  ("hira kana", "3031 5 63 4 3 1 5b 1 ce73 1 2d 2"),
  ("hani hira kana", "303c 2"),
  ("hani latn", "a700 8"),
  ("deva dogr gujr guru khoj knda kthi mahj mlym modi nand shrd sind takr tirh tutg", "a830 3"),
  ("deva dogr gujr guru khoj knda kthi mahj modi nand shrd sind takr tirh tutg", "a833 3"),
  ("deva dogr gujr guru khoj kthi mahj modi sind takr tirh", "a836 2 1 1"),
  ("deva dogr gujr guru khoj kthi mahj modi shrd sind takr tirh", "a838 1"),
  ("beng deva tutg", "a8f1 1"),
  ("deva taml", "a8f3 1"),
  ("kali latn mymr", "a92e 1"),
  ("bugi java", "a9cf 1"),
  ("arab nkoo", "fd3e 2"),
  ("arab thaa", "fdf2 1 a 1"),
  ("cpmn cprt linb", "10100 2"),
  ("cprt linb", "10102 1 34 9"),
  ("cprt lina linb", "10107 2d"),
  ("arab copt", "102e0 1c"),
  ("mani ougr", "10af2 1")]

/-- The characters that are used with a script. Its own characters are, unless the rows say with
which scripts they are used. -/
def scriptExtension? (name : String) : Option CharacterSet := do
  let (names, lengths) ← scriptRows.find? fun entry => entry.1.contains name
  let isUsed (scripts : String) : Bool := (Text.splitOn ' ' scripts).any names.contains
  let used := (scriptExtensionRows.filter fun row => isUsed row.1).map fun row =>
    CharacterSet.ofLengths [row.2]
  let listed := scriptExtensionRows.map fun row => CharacterSet.ofLengths [row.2]
  return (CharacterSet.unions used).union ((CharacterSet.ofLengths lengths).without listed)

end Graft.Character

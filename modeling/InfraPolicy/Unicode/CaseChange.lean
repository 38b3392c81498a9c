import InfraPolicy.Unicode.CaseMapping

/-!
# Characters that change with case

Which characters differ from one of their forms: the lower-case form, the upper-case form, the form
at the beginning of a title, or the folded form. The last two forms are nearly always one of the
first two, so their sets are written by the differences.
-/

namespace InfraPolicy.Unicode

def changesWhenLowercased : CodeSet :=
  ((CodeSet.ofRanges ((lowercaseRuns.flatMap CaseRun.pairs).map fun p => (p.1, p.1))).union
    (.ofTable "130")).diff recent

def changesWhenUppercased : CodeSet :=
  .ofTable
    "61-7a,b5,df-f6,f8-ff,101~137,13a~148,149~177,17a~17e,17f-180,183~185,188,18c,192,195,199-19b,
    19e,1a1~1a5,1a8,1ad,1b0,1b4~1b6,1b9,1bd~1bf,1c5-1c6,1c8-1c9,1cb-1cc,1ce~1dc,1dd~1ef,1f0~1f2,
    1f3~1f5,1f9~21f,223~233,23c,23f-240,242,247~24f,250-254,256-257,259~25b,25c,260-261,263-266,
    268-26c,26f~271,272,275,27d,280~282,283,287-28c,292,29d-29e,345,371~373,377,37b-37d,390,3ac-3ce,
    3d0-3d1,3d5-3d7,3d9~3ef,3f0-3f3,3f5,3f8,3fb,430-45f,461~481,48b~4bf,4c2~4ce,4cf~52f,561-587,
    10d0-10fa,10fd-10ff,13f8-13fd,1c80-1c88,1c8a,1d79,1d7d,1d8e,1e01~1e95,1e96-1e9b,1ea1~1eff,
    1f00-1f07,1f10-1f15,1f20-1f27,1f30-1f37,1f40-1f45,1f50-1f57,1f60-1f67,1f70-1f7d,1f80-1fb4,
    1fb6-1fb7,1fbc~1fbe,1fc2-1fc4,1fc6-1fc7,1fcc,1fd0-1fd3,1fd6-1fd7,1fe0-1fe7,1ff2-1ff4,1ff6-1ff7,
    1ffc,214e,2170-217f,2184,24d0-24e9,2c30-2c5f,2c61,2c65-2c66,2c68~2c6c,2c73,2c76,2c81~2ce3,
    2cec~2cee,2cf3,2d00-2d25,2d27,2d2d,a641~a66d,a681~a69b,a723~a72f,a733~a76f,a77a~a77c,a77f~a787,
    a78c,a791~a793,a794,a797~a7a9,a7b5~a7c3,a7c8~a7ca,a7cd,a7d1,a7d7~a7db,a7f6,ab53,ab70-abbf,
    fb00-fb06,fb13-fb17,ff41-ff5a,10428-1044f,104d8-104fb,10597-105a1,105a3-105b1,105b3-105b9,
    105bb-105bc,10cc0-10cf2,10d70-10d85,118c0-118df,16e60-16e7f,1e922-1e943"

def changesWhenTitlecased : CodeSet :=
  (changesWhenUppercased.diff (.ofTable
    "1c5,1c8,1cb,1f2,10d0-10fa,10fd-10ff,1f88-1f8f,1f98-1f9f,1fa8-1faf,1fbc,1fcc,1ffc")).union
    (.ofTable "1c4,1c7,1ca,1f1")

def changesWhenCasefolded : CodeSet :=
  (changesWhenLowercased.diff (.ofTable "13a0-13f5")).union (.ofTable
    "b5,df,149,17f,345,3c2,3d0-3d1,3d5-3d6,3f0-3f1,3f5,587,13f8-13fd,1c80-1c88,1e9a-1e9b,1f80-1f87,
    1f90-1f97,1fa0-1fa7,1fb2-1fb4,1fb7,1fc2-1fc4,1fc7,1ff2-1ff4,1ff7,ab70-abbf,fb00-fb06,fb13-fb17")

def changesWhenCasemapped : CodeSet :=
  (changesWhenLowercased.union changesWhenUppercased).union changesWhenTitlecased

end InfraPolicy.Unicode

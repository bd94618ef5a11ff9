import LinkFacts.Unicode.Table

/-!
# Mapping of host names

How the characters of a host name are mapped before it is written in ASCII: letters fold to
lower case, compatibility forms to plain ones, and some characters vanish or are refused.
-/

namespace LinkFacts
namespace Unicode

/-- Runs that stay, `V`, vanish, `I`, and are refused, `X`; pairs of which the first is mapped to
the second, `P`; single characters with their replacement and runs mapped to neighbours, `M`. -/
def hostMappingLines : List String :=
  ["41V1a,61M25V20X1,20M7V1,20,308M1V1,61M2V1I1V1,20,304M2V2,32M1,20,301M1,3bcM2V1,20,327M1,31M1",
    ",6fM1V1,31,2044,34M1,31,2044,32M1,33,2044,34M1V17,e0M1V7,f8M21V30P1,69,307M1V1,69,6aM1,69,6a",
    "M4P1V6P1,6c,b7M1,6c,b7M8P1,2bc,6eM2eP1,ffM6P1,73M1V1,253M4P1,254M1,188M1V2,256M1,18cM2V1,1dd",
    "M1,259M1,25bM1,192M1V1,260M1,263M1V1,269M1,268M1,199M3V1,26fM1,272M1V1,275M6P1,280M1,1a8M1V1",
    ",283M2V1,1adM1V1,288M1,1b0M1V2,28aM4P1,292M1,1b9M3V1,1bdM7V1,64,17eM1,64,17eM1,64,17eM1,6c,6",
    "aM1,6c,6aM1,6c,6aM1,6e,6aM1,6e,6aM1,6e,6aM10P1V12P1V1,64,7aM1,64,7aM1,64,7aM1,1f5M1V1,195M1,",
    "1bfM28P1,19eM1V12P6V1,2c65M1,23cM1V1,19aM1,2c66M2V1,242M1V1,180M1,289M1,28cMaP60V1,68M1,266M",
    "1,6aM1,72M1,279M1,27bM1,281M1,77M1,79M1fV1,20,306M1,20,307M1,20,30aM1,20,328M1,20,303M1,20,3",
    "0bM2V1,263M1,6cM1,73M1,78M1,295M5bV2,300M1V1,313M1,308,301M1,3b9M9V1I20V4P1,2b9M1V1,377M1V2X",
    "1,20,3b9M3V1,3bM1,3f3M4X1,20,301M1,20,308,301M1,3acM1,b7M3,3adM1X1,3ccM1X2,3cdM1V11,3b1M1X9,",
    "3c3M23V1,3d7M1,3b2M1,3b8M1,3c5M1,3cdM1,3cbM1,3c6M1,3c0M1V18P1,3baM1,3c1M1,3c3M1V1,3b8M1,3b5M",
    "1V1,3f8M1V1,3c3M1,3fbM2V3,37bM10,450M20,430M30V22P8V36P1,4cfMeP1V60P1X26,561M2X2eV1,565,582M",
    "3V2X3V1X37V8X1bV4X6V11X16V1X58V1,627,674M1,648,674M1,6c7,674M1,64a,674M64V1X30V2X3bV2X65VeX3",
    "bV2X31V2XfV1X1cV2X1V1XbV5X20V7X4bV1X75V1,915,93cM1,916,93cM1,917,93cM1,91c,93cM1,921,93cM1,9",
    "22,93cM1,92b,93cM1,92f,93cM24V1X8V2X2V2X16V1X7V1X1V3X4V2X9V2X2V2X4V8X1V4X1,9a1,9bcM1,9a2,9bc",
    "M1X1,9af,9bcM4V2X19V2X3V1X6V4X2V2X16V1X7V1X1V1,a32,a3cM1X1V1,a38,a3cM1X2V2X1V1X5V4X2V2X3V3X1",
    "V7X1,a16,a3cM1,a17,a3cM1,a1c,a3cM1V1X1,a2b,a3cM7X11VaX3V1X9V1X3V1X16V1X7V1X2V1X5V2XaV1X3V1X3",
    "V2X1VfX4V2XcV7X7V1X3V1X8V2X2V2X16V1X7V1X2V1X5V2X9V2X2V2X3V7X3V4X1,b21,b3cM1,b22,b3cM1X5V2X12",
    "VaX2V1X6V3X3V1X4V3X2V1X1V1X2V3X2V3X3V3XcV4X5V3X3V1X4V2X1V6X1VeX15V5XdV1X3V1X17V1X10V2X9V1X3V",
    "1X4V7X2V1X3V1X2V2X4V2XaV7X16V1X3V1X17V1XaV1X5V2X9V1X3V1X4V7X2V5X3V1X4V2XaV1X3VcXdV1X3V1X33V1",
    "X3V1X6V4X10V2X1aV1X3V1X12V3X18V1X9V1X1V2X7V3X1V4X6V1X1V1X8V6XaV2X3VcX32V1,e4d,e32M7V4X1dV25X",
    "2V1X1V1X5V1X18V1X1V1XcV1,ecd,eb2MaV2X5V1X1V1X7V1XaV2X1,eab,e99M1,eab,ea1M2V20XcV1,f0bM36V1,f",
    "42,fb7M4V1X4V1,f4c,fb7M4V1,f51,fb7M4V1,f56,fb7M4V1,f5b,fb7McV1,f40,fb5M3V4X2V1,f71,f72M1V1,f",
    "71,f74M1,fb2,f80M1,fb2,f71,f80M1,fb3,f80M1,fb3,f71,f80M7V1,f71,f80M11V1,f92,fb7M4V1X4V1,f9c,",
    "fb7M4V1,fa1,fb7M4V1,fa6,fb7M4V1,fab,fb7McV1,f90,fb5M3V1XfV1XdV25Xa0V26,2d00M1X1,2d27M5X1,2d2",
    "dM2X2cV1,10dcM62V2Ie8V1X4V2X7V1X1V1X4V2X29V1X4V2X21V1X4V2X7V1X1V1X4V2XfV1X39V1X4V2X43V2X20V3",
    "X1aV6X56V2X6,13f0M2X280V1X1cV3X59V7X16V9X18V9X14VcXdV1X3V1X2VcX34V2I28V2XaV6XaV6XbV5IaV6X59V",
    "7X2bV5X46VaX1fV1XcV4XcV4X1V3X2aV2X5VbX2cV4X1aV6XbV3X3eV2X41V1X1dV2XbV6XaV6XeV2X2eV2XcV14X4dV",
    "1Xa6V8X3cV3XfV3X33V1,432M1,434M1,43eM2,441M1,442M1,44aM1,463M1,a64bM1,1c8aM1V5X2b,10d0M2X3,1",
    "0fdM8V8X2bV5X2cV1,61M1,e6M1,62M1V2,64M1,1ddM8,67M1V1,6fM1,223M1,70M1,72M2,74M1,77M1,61M2,250",
    "M1,1d02M1,62M2,64M1,259M2,25bM1,67M1V1,6bM1,6dM1,14bM1,6fM1,254M2,1d16M1,70M2,74M1,1d1dM1,26",
    "fM1,76M1,1d25M3,3b2M2,3c6M1,69M1,72M2,75M2,3b2M1,3c1M2,3c6MdV1,43dM22V1,252M1,63M1,255M1,f0M",
    "1,25cM1,66M1,25fM1,261M1,265M3,268M1,1d7bM1,29dM1,26dM1,1d85M1,29fM1,271M1,270M4,272M1,278M2",
    ",282M1,1abM2,289M1,1d1cM2,28bM1,7aM3,290M1,3b8M40V96P4V1,61,2beM1,1e61M2V1,dfM1V60P8V8,1f00M",
    "6V2X6,1f10M2X8V8,1f20M8V8,1f30M6V2X6,1f40M2X8V1X1,1f51M1X1,1f53M1X1,1f55M1X1,1f57M8V8,1f60M1",
    "V1,3acM1V1,3adM1V1,3aeM1V1,3afM1V1,3ccM1V1,3cdM1V1,3ceM2X1,1f00,3b9M1,1f01,3b9M1,1f02,3b9M1,",
    "1f03,3b9M1,1f04,3b9M1,1f05,3b9M1,1f06,3b9M1,1f07,3b9M1,1f00,3b9M1,1f01,3b9M1,1f02,3b9M1,1f03",
    ",3b9M1,1f04,3b9M1,1f05,3b9M1,1f06,3b9M1,1f07,3b9M1,1f20,3b9M1,1f21,3b9M1,1f22,3b9M1,1f23,3b9",
    "M1,1f24,3b9M1,1f25,3b9M1,1f26,3b9M1,1f27,3b9M1,1f20,3b9M1,1f21,3b9M1,1f22,3b9M1,1f23,3b9M1,1",
    "f24,3b9M1,1f25,3b9M1,1f26,3b9M1,1f27,3b9M1,1f60,3b9M1,1f61,3b9M1,1f62,3b9M1,1f63,3b9M1,1f64,",
    "3b9M1,1f65,3b9M1,1f66,3b9M1,1f67,3b9M1,1f60,3b9M1,1f61,3b9M1,1f62,3b9M1,1f63,3b9M1,1f64,3b9M",
    "1,1f65,3b9M1,1f66,3b9M1,1f67,3b9M2V1,1f70,3b9M1,3b1,3b9M1,3ac,3b9M1X1V1,1fb6,3b9M2,1fb0M1,1f",
    "70M1,3acM1,3b1,3b9M1,20,313M1,3b9M1,20,313M1,20,342M1,20,308,342M1,1f74,3b9M1,3b7,3b9M1,3ae,",
    "3b9M1X1V1,1fc6,3b9M1,1f72M1,3adM1,1f74M1,3aeM1,3b7,3b9M1,20,313,300M1,20,313,301M1,20,313,34",
    "2M3V1,390M2X2V2,1fd0M1,1f76M1,3afM1X1,20,314,300M1,20,314,301M1,20,314,342M3V1,3b0M4V2,1fe0M",
    "1,1f7aM1,3cdM1,1fe5M1,20,308,300M1,20,308,301M1,60M2X1,1f7c,3b9M1,3c9,3b9M1,3ce,3b9M1X1V1,1f",
    "f6,3b9M1,1f78M1,3ccM1,1f7cM1,3ceM1,3c9,3b9M1,20,301M1,20,314M1X1,20M1,20M1,20M1,20M1,20M1,20",
    "M1,20M1,20M1,20M1,20M1,20M1I2V2X1V1,2010M5V1,20,333McV3X1V7X1,20M3V1,2032,2032M1,2032,2032,2",
    "032M1V1,2035,2035M1,2035,2035,2035M4V1,21,21M1V1,20,305M8V1,3f,3fM1,3f,21M1,21,3fMdV1,2032,2",
    "032,2032,2032M7V1,20M5I5X6I1,30M1,69M2X6,34M1,2bM1,2212M1,3dM2,28M1,6eMa,30M1,2bM1,2212M1,3d",
    "M2,28M1X1,61M1,65M1,6fM1,78M1,259M1,68M4,6bM1,70M2,73M3X8V1,72,73M19VeX21VfX1,61,2f,63M1,61,",
    "2f,73M1,63M1,b0,63M1V1,63,2f,6fM1,63,2f,75M1,25bM1V1,b0,66M2,67M1,68M1,68M1,68M1,127M1,69M1,",
    "69M1,6cM1,6cM1V1,6eM1,6e,6fM2V3,70M1,72M1,72M2V1,73,6dM1,74,65,6cM1,74,6dM1V1,7aM1V1,3c9M1V1",
    ",7aM1V1,6bM1,e5M2,62M1V1,65M2,65M1,214eM1,6dM1,6fM4,5d0M1,69M1V1,66,61,78M1,3c0M1,3b3M1,3b3M",
    "1,3c0M1,2211M4V1,64M2,64M2,69M6V1,31,2044,37M1,31,2044,39M1,31,2044,31,30M1,31,2044,33M1,32,",
    "2044,33M1,31,2044,35M1,32,2044,35M1,33,2044,35M1,34,2044,35M1,31,2044,36M1,35,2044,36M1,31,2",
    "044,38M1,33,2044,38M1,35,2044,38M1,37,2044,38M1,31,2044M1,69M1,69,69M1,69,69,69M1,69,76M1,76",
    "M1,76,69M1,76,69,69M1,76,69,69,69M1,69,78M1,78M1,78,69M1,78,69,69M1,6cM2,63M1,6dM1,69M1,69,6",
    "9M1,69,69,69M1,69,76M1,76M1,76,69M1,76,69,69M1,76,69,69,69M1,69,78M1,78M1,78,69M1,78,69,69M1",
    ",6cM2,63M1,6dM3V1,2184M5V1,30,2044,33M2V4X9cV1,222b,222bM1,222b,222b,222bM1V1,222e,222eM1,22",
    "2e,222e,222eMf8V2,3008MffV16XbV15X9,31M1,31,30M1,31,31M1,31,32M1,31,33M1,31,34M1,31,35M1,31,",
    "36M1,31,37M1,31,38M1,31,39M1,32,30M1,28,31,29M1,28,32,29M1,28,33,29M1,28,34,29M1,28,35,29M1,",
    "28,36,29M1,28,37,29M1,28,38,29M1,28,39,29M1,28,31,30,29M1,28,31,31,29M1,28,31,32,29M1,28,31,",
    "33,29M1,28,31,34,29M1,28,31,35,29M1,28,31,36,29M1,28,31,37,29M1,28,31,38,29M1,28,31,39,29M1,",
    "28,32,30,29M14X1,28,61,29M1,28,62,29M1,28,63,29M1,28,64,29M1,28,65,29M1,28,66,29M1,28,67,29M",
    "1,28,68,29M1,28,69,29M1,28,6a,29M1,28,6b,29M1,28,6c,29M1,28,6d,29M1,28,6e,29M1,28,6f,29M1,28",
    ",70,29M1,28,71,29M1,28,72,29M1,28,73,29M1,28,74,29M1,28,75,29M1,28,76,29M1,28,77,29M1,28,78,",
    "29M1,28,79,29M1,28,7a,29M1a,61M1a,61M1,30M521V1,222b,222b,222b,222bM67V1,3a,3a,3dM1,3d,3dM1,",
    "3d,3d,3dM65V1,2add,338M97V2X8aV30,2c30M30V1,2c61M1V1,26bM1,1d7dM1,27dM2V6P1,251M1,271M1,250M",
    "1,252M1V1,2c73M2V1,2c76M6V1,6aM1,76M2,23fM64P7V4P3V1,2cf3M1V5X2dV1X1V5X1V2X38V7X1,2d61M1VeX1",
    "8V9X7V1X7V1X7V1X7V1X7V1X7V1X7V1X7V1X7eV22X1aV1X4V1,6bcdM53V1,9f9fMcX1,4e00M1,4e28M1,4e36M1,4",
    "e3fM1,4e59M1,4e85M1,4e8cM1,4ea0M1,4ebaM1,513fM1,5165M1,516bM1,5182M1,5196M1,51abM1,51e0M1,51",
    "f5M1,5200M1,529bM1,52f9M1,5315M1,531aM1,5338M1,5341M1,535cM1,5369M1,5382M1,53b6M1,53c8M1,53e",
    "3M1,56d7M1,571fM1,58ebM1,5902M1,590aM1,5915M1,5927M1,5973M1,5b50M1,5b80M1,5bf8M1,5c0fM1,5c22",
    "M1,5c38M1,5c6eM1,5c71M1,5ddbM1,5de5M1,5df1M1,5dfeM1,5e72M1,5e7aM1,5e7fM1,5ef4M1,5efeM1,5f0bM",
    "1,5f13M1,5f50M1,5f61M1,5f73M1,5fc3M1,6208M1,6236M1,624bM1,652fM1,6534M1,6587M1,6597M1,65a4M1",
    ",65b9M1,65e0M1,65e5M1,66f0M1,6708M1,6728M1,6b20M1,6b62M1,6b79M1,6bb3M1,6bcbM1,6bd4M1,6bdbM1,",
    "6c0fM1,6c14M1,6c34M1,706bM1,722aM1,7236M1,723bM1,723fM1,7247M1,7259M1,725bM1,72acM1,7384M1,7",
    "389M1,74dcM1,74e6M1,7518M1,751fM1,7528M1,7530M1,758bM1,7592M1,7676M1,767dM1,76aeM1,76bfM1,76",
    "eeM1,77dbM1,77e2M1,77f3M1,793aM1,79b8M1,79beM1,7a74M1,7acbM1,7af9M1,7c73M1,7cf8M1,7f36M1,7f5",
    "1M1,7f8aM1,7fbdM1,8001M1,800cM1,8012M1,8033M1,807fM1,8089M1,81e3M1,81eaM1,81f3M1,81fcM1,820c",
    "M1,821bM1,821fM1,826eM1,8272M1,8278M1,864dM1,866bM1,8840M1,884cM1,8863M1,897eM1,898bM1,89d2M",
    "1,8a00M1,8c37M1,8c46M1,8c55M1,8c78M1,8c9dM1,8d64M1,8d70M1,8db3M1,8eabM1,8ecaM1,8f9bM1,8fb0M1",
    ",8fb5M1,9091M1,9149M1,91c6M1,91ccM1,91d1M1,9577M1,9580M1,961cM1,96b6M1,96b9M1,96e8M1,9751M1,",
    "975eM1,9762M1,9769M1,97cbM1,97edM1,97f3M1,9801M1,98a8M1,98dbM1,98dfM1,9996M1,9999M1,99acM1,9",
    "aa8M1,9ad8M1,9adfM1,9b25M1,9b2fM1,9b32M1,9b3cM1,9b5aM1,9ce5M1,9e75M1,9e7fM1,9ea5M1,9ebbM1,9e",
    "c3M1,9ecdM1,9ed1M1,9ef9M1,9efdM1,9f0eM1,9f13M1,9f20M1,9f3bM1,9f4aM1,9f52M1,9f8dM1,9f9cM1,9fa",
    "0M2aX1,20M1V1,2eM33V1,3012M1V1,5341M2,5344M5V1X56V2X2V1,20,3099M1,20,309aM2V1,3088,308aM5fV1",
    ",30b3,30c8M5X2bV1X2,1100M1,11aaM1,1102M2,11acM3,1103M6,11b0M1,111aM3,1106M1,1121Ma,1109M15,1",
    "161M1I2,1114M2,11c7M1,11ccM1,11ceM1,11d3M1,11d7M1,11d9M1,111cM1,11ddM1,11dfM2,111dM1,1120M2,",
    "1122M1,1127M1,1129M5,112bM1,1132M1,1136M1,1140M1,1147M1,114cM2,11f1M3,1157M2,1184M1,1188M2,1",
    "191M1,1194M1,119eM1,11a1M1X2V1,4e00M1,4e8cM1,4e09M1,56dbM1,4e0aM1,4e2dM1,4e0bM1,7532M1,4e59M",
    "1,4e19M1,4e01M1,5929M1,5730M1,4ebaM46VaX10V1,28,1100,29M1,28,1102,29M1,28,1103,29M1,28,1105,",
    "29M1,28,1106,29M1,28,1107,29M1,28,1109,29M1,28,110b,29M1,28,110c,29M1,28,110e,29M1,28,110f,2",
    "9M1,28,1110,29M1,28,1111,29M1,28,1112,29M1,28,ac00,29M1,28,b098,29M1,28,b2e4,29M1,28,b77c,29",
    "M1,28,b9c8,29M1,28,bc14,29M1,28,c0ac,29M1,28,c544,29M1,28,c790,29M1,28,cc28,29M1,28,ce74,29M",
    "1,28,d0c0,29M1,28,d30c,29M1,28,d558,29M1,28,c8fc,29M1,28,c624,c804,29M1,28,c624,d6c4,29M1X1,",
    "28,4e00,29M1,28,4e8c,29M1,28,4e09,29M1,28,56db,29M1,28,4e94,29M1,28,516d,29M1,28,4e03,29M1,2",
    "8,516b,29M1,28,4e5d,29M1,28,5341,29M1,28,6708,29M1,28,706b,29M1,28,6c34,29M1,28,6728,29M1,28",
    ",91d1,29M1,28,571f,29M1,28,65e5,29M1,28,682a,29M1,28,6709,29M1,28,793e,29M1,28,540d,29M1,28,",
    "7279,29M1,28,8ca1,29M1,28,795d,29M1,28,52b4,29M1,28,4ee3,29M1,28,547c,29M1,28,5b66,29M1,28,7",
    "6e3,29M1,28,4f01,29M1,28,8cc7,29M1,28,5354,29M1,28,796d,29M1,28,4f11,29M1,28,81ea,29M1,28,81",
    "f3,29M1,554fM1,5e7cM1,6587M1,7b8fM8V1,70,74,65M1,32,31M1,32,32M1,32,33M1,32,34M1,32,35M1,32,",
    "36M1,32,37M1,32,38M1,32,39M1,33,30M1,33,31M1,33,32M1,33,33M1,33,34M1,33,35M1,1100M2,1102M3,1",
    "105M1,1109M2,110bM5,110eM1,ac00M1,b098M1,b2e4M1,b77cM1,b9c8M1,bc14M1,c0acM1,c544M1,c790M1,cc",
    "28M1,ce74M1,d0c0M1,d30cM1,d558M1,cc38,ace0M1,c8fc,c758M1,c6b0M1V1,4e00M1,4e8cM1,4e09M1,56dbM",
    "1,4e94M1,516dM1,4e03M1,516bM1,4e5dM1,5341M1,6708M1,706bM1,6c34M1,6728M1,91d1M1,571fM1,65e5M1",
    ",682aM1,6709M1,793eM1,540dM1,7279M1,8ca1M1,795dM1,52b4M1,79d8M1,7537M1,5973M1,9069M1,512aM1,",
    "5370M1,6ce8M1,9805M1,4f11M1,5199M1,6b63M1,4e0aM1,4e2dM1,4e0bM1,5de6M1,53f3M1,533bM1,5b97M1,5",
    "b66M1,76e3M1,4f01M1,8cc7M1,5354M1,591cM1,33,36M1,33,37M1,33,38M1,33,39M1,34,30M1,34,31M1,34,",
    "32M1,34,33M1,34,34M1,34,35M1,34,36M1,34,37M1,34,38M1,34,39M1,35,30M1,31,6708M1,32,6708M1,33,",
    "6708M1,34,6708M1,35,6708M1,36,6708M1,37,6708M1,38,6708M1,39,6708M1,31,30,6708M1,31,31,6708M1",
    ",31,32,6708M1,68,67M1,65,72,67M1,65,76M1,6c,74,64M1,30a2M1,30a4M1,30a6M1,30a8M2,30aaM1,30adM",
    "1,30afM1,30b1M1,30b3M1,30b5M1,30b7M1,30b9M1,30bbM1,30bdM1,30bfM1,30c1M1,30c4M1,30c6M1,30c8M6",
    ",30caM1,30d2M1,30d5M1,30d8M1,30dbM5,30deM1,30e4M1,30e6M6,30e8M4,30efM1,4ee4,548cM1,30a2,30d1",
    ",30fc,30c8M1,30a2,30eb,30d5,30a1M1,30a2,30f3,30da,30a2M1,30a2,30fc,30ebM1,30a4,30cb,30f3,30b",
    "0M1,30a4,30f3,30c1M1,30a6,30a9,30f3M1,30a8,30b9,30af,30fc,30c9M1,30a8,30fc,30ab,30fcM1,30aa,",
    "30f3,30b9M1,30aa,30fc,30e0M1,30ab,30a4,30eaM1,30ab,30e9,30c3,30c8M1,30ab,30ed,30ea,30fcM1,30",
    "ac,30ed,30f3M1,30ac,30f3,30deM1,30ae,30acM1,30ae,30cb,30fcM1,30ad,30e5,30ea,30fcM1,30ae,30eb",
    ",30c0,30fcM1,30ad,30edM1,30ad,30ed,30b0,30e9,30e0M1,30ad,30ed,30e1,30fc,30c8,30ebM1,30ad,30e",
    "d,30ef,30c3,30c8M1,30b0,30e9,30e0M1,30b0,30e9,30e0,30c8,30f3M1,30af,30eb,30bc,30a4,30edM1,30",
    "af,30ed,30fc,30cdM1,30b1,30fc,30b9M1,30b3,30eb,30caM1,30b3,30fc,30ddM1,30b5,30a4,30af,30ebM1",
    ",30b5,30f3,30c1,30fc,30e0M1,30b7,30ea,30f3,30b0M1,30bb,30f3,30c1M1,30bb,30f3,30c8M1,30c0,30f",
    "c,30b9M1,30c7,30b7M1,30c9,30ebM1,30c8,30f3M1,30ca,30ceM1,30ce,30c3,30c8M1,30cf,30a4,30c4M1,3",
    "0d1,30fc,30bb,30f3,30c8M1,30d1,30fc,30c4M1,30d0,30fc,30ec,30ebM1,30d4,30a2,30b9,30c8,30ebM1,",
    "30d4,30af,30ebM1,30d4,30b3M1,30d3,30ebM1,30d5,30a1,30e9,30c3,30c9M1,30d5,30a3,30fc,30c8M1,30",
    "d6,30c3,30b7,30a7,30ebM1,30d5,30e9,30f3M1,30d8,30af,30bf,30fc,30ebM1,30da,30bdM1,30da,30cb,3",
    "0d2M1,30d8,30eb,30c4M1,30da,30f3,30b9M1,30da,30fc,30b8M1,30d9,30fc,30bfM1,30dd,30a4,30f3,30c",
    "8M1,30dc,30eb,30c8M1,30db,30f3M1,30dd,30f3,30c9M1,30db,30fc,30ebM1,30db,30fc,30f3M1,30de,30a",
    "4,30af,30edM1,30de,30a4,30ebM1,30de,30c3,30cfM1,30de,30eb,30afM1,30de,30f3,30b7,30e7,30f3M1,",
    "30df,30af,30ed,30f3M1,30df,30eaM1,30df,30ea,30d0,30fc,30ebM1,30e1,30acM1,30e1,30ac,30c8,30f3",
    "M1,30e1,30fc,30c8,30ebM1,30e4,30fc,30c9M1,30e4,30fc,30ebM1,30e6,30a2,30f3M1,30ea,30c3,30c8,3",
    "0ebM1,30ea,30e9M1,30eb,30d4,30fcM1,30eb,30fc,30d6,30ebM1,30ec,30e0M1,30ec,30f3,30c8,30b2,30f",
    "3M1,30ef,30c3,30c8M1,30,70b9M1,31,70b9M1,32,70b9M1,33,70b9M1,34,70b9M1,35,70b9M1,36,70b9M1,3",
    "7,70b9M1,38,70b9M1,39,70b9M1,31,30,70b9M1,31,31,70b9M1,31,32,70b9M1,31,33,70b9M1,31,34,70b9M",
    "1,31,35,70b9M1,31,36,70b9M1,31,37,70b9M1,31,38,70b9M1,31,39,70b9M1,32,30,70b9M1,32,31,70b9M1",
    ",32,32,70b9M1,32,33,70b9M1,32,34,70b9M1,68,70,61M1,64,61M1,61,75M1,62,61,72M1,6f,76M1,70,63M",
    "1,64,6dM1,64,6d,32M1,64,6d,33M1,69,75M1,5e73,6210M1,662d,548cM1,5927,6b63M1,660e,6cbbM1,682a",
    ",5f0f,4f1a,793eM1,70,61M1,6e,61M1,3bc,61M1,6d,61M1,6b,61M1,6b,62M1,6d,62M1,67,62M1,63,61,6cM",
    "1,6b,63,61,6cM1,70,66M1,6e,66M1,3bc,66M1,3bc,67M1,6d,67M1,6b,67M1,68,7aM1,6b,68,7aM1,6d,68,7",
    "aM1,67,68,7aM1,74,68,7aM1,3bc,6cM1,6d,6cM1,64,6cM1,6b,6cM1,66,6dM1,6e,6dM1,3bc,6dM1,6d,6dM1,",
    "63,6dM1,6b,6dM1,6d,6d,32M1,63,6d,32M1,6d,32M1,6b,6d,32M1,6d,6d,33M1,63,6d,33M1,6d,33M1,6b,6d",
    ",33M1,6d,2215,73M1,6d,2215,73,32M1,70,61M1,6b,70,61M1,6d,70,61M1,67,70,61M1,72,61,64M1,72,61",
    ",64,2215,73M1,72,61,64,2215,73,32M1,70,73M1,6e,73M1,3bc,73M1,6d,73M1,70,76M1,6e,76M1,3bc,76M",
    "1,6d,76M1,6b,76M1,6d,76M1,70,77M1,6e,77M1,3bc,77M1,6d,77M1,6b,77M1,6d,77M1,6b,3c9M1,6d,3c9M1",
    "X1,62,71M1,63,63M1,63,64M1,63,2215,6b,67M1X1,64,62M1,67,79M1,68,61M1,68,70M1,69,6eM1,6b,6bM1",
    ",6b,6dM1,6b,74M1,6c,6dM1,6c,6eM1,6c,6f,67M1,6c,78M1,6d,62M1,6d,69,6cM1,6d,6f,6cM1,70,68M1X1,",
    "70,70,6dM1,70,72M1,73,72M1,73,76M1,77,62M1,76,2215,6dM1,61,2215,6dM1,31,65e5M1,32,65e5M1,33,",
    "65e5M1,34,65e5M1,35,65e5M1,36,65e5M1,37,65e5M1,38,65e5M1,39,65e5M1,31,30,65e5M1,31,31,65e5M1",
    ",31,32,65e5M1,31,33,65e5M1,31,34,65e5M1,31,35,65e5M1,31,36,65e5M1,31,37,65e5M1,31,38,65e5M1,",
    "31,39,65e5M1,32,30,65e5M1,32,31,65e5M1,32,32,65e5M1,32,33,65e5M1,32,34,65e5M1,32,35,65e5M1,3",
    "2,36,65e5M1,32,37,65e5M1,32,38,65e5M1,32,39,65e5M1,33,30,65e5M1,33,31,65e5M1,67,61,6cM708dV3",
    "X37V9X15cV14X2eP12V1cP1,44aM1,44cM5aV8X22VeP2V3eP1,a76fM8V4P1,1d79MaP3V1,a78cM1V1,265M2V4P2V",
    "14P1,266M1,25cM1,261M1,26cM1,26aM1V1,29eM1,287M1,29dM1,ab53M10P1,a794M1,282M1,1d8eM4P1,264M1",
    "0P1,19bM14X1,73M1,63M1,66M1,71M1,a7f6M2V1,127M1,153M33V3XaV6X38V8X46V8XcV6X74VbX1eV3X4eV1XbV",
    "4X21V1X37V9XeV2XaV2X67V18X1cVaX6V2X6V2X6V9X7V1X7V1X2cV1,a727M1,ab37M1,26bM1,ab52M9V1,28dM2V4",
    "X50,13a0M2eV2XaV6X2ba4VcX17V4X31V2104X1,8c48M1,66f4M1,8ecaM1,8cc8M1,6ed1M1,4e32M1,53e5M1,9f9",
    "cM1,9f9cM1,5951M1,91d1M1,5587M1,5948M1,61f6M1,7669M1,7f85M1,863fM1,87baM1,88f8M1,908fM1,6a02",
    "M1,6d1bM1,70d9M1,73deM1,843dM1,916aM1,99f1M1,4e82M1,5375M1,6b04M1,721bM1,862dM1,9e1eM1,5d50M",
    "1,6febM1,85cdM1,8964M1,62c9M1,81d8M1,881fM1,5ecaM1,6717M1,6d6aM1,72fcM1,90ceM1,4f86M1,51b7M1",
    ",52deM1,64c4M1,6ad3M1,7210M1,76e7M1,8001M1,8606M1,865cM1,8defM1,9732M1,9b6fM1,9dfaM1,788cM1,",
    "797fM1,7da0M1,83c9M1,9304M1,9e7fM1,8ad6M1,58dfM1,5f04M1,7c60M1,807eM1,7262M1,78caM1,8cc2M1,9",
    "6f7M1,58d8M1,5c62M1,6a13M1,6ddaM1,6f0fM1,7d2fM1,7e37M1,964bM1,52d2M1,808bM1,51dcM1,51ccM1,7a",
    "1cM1,7dbeM1,83f1M1,9675M1,8b80M1,62cfM1,6a02M1,8afeM1,4e39M1,5be7M1,6012M1,7387M1,7570M1,531",
    "7M1,78fbM1,4fbfM1,5fa9M1,4e0dM1,6cccM1,6578M1,7d22M1,53c3M1,585eM1,7701M1,8449M1,8aaaM1,6bba",
    "M1,8fb0M1,6c88M1,62feM1,82e5M1,63a0M1,7565M1,4eaeM1,5169M1,51c9M1,6881M1,7ce7M1,826fM1,8ad2M",
    "1,91cfM1,52f5M1,5442M1,5973M1,5eecM1,65c5M1,6ffeM1,792aM1,95adM1,9a6aM1,9e97M1,9eceM1,529bM1",
    ",66c6M1,6b77M1,8f62M1,5e74M1,6190M1,6200M1,649aM1,6f23M1,7149M1,7489M1,79caM1,7df4M1,806fM1,",
    "8f26M1,84eeM1,9023M1,934aM1,5217M1,52a3M1,54bdM1,70c8M1,88c2M1,8aaaM1,5ec9M1,5ff5M1,637bM1,6",
    "baeM1,7c3eM1,7375M1,4ee4M1,56f9M1,5be7M1,5dbaM1,601cM1,73b2M1,7469M1,7f9aM1,8046M1,9234M1,96",
    "f6M1,9748M1,9818M1,4f8bM1,79aeM1,91b4M1,96b8M1,60e1M1,4e86M1,50daM1,5beeM1,5c3fM1,6599M1,6a0",
    "2M1,71ceM1,7642M1,84fcM1,907cM1,9f8dM1,6688M1,962eM1,5289M1,677bM1,67f3M1,6d41M1,6e9cM1,7409",
    "M1,7559M1,786bM1,7d10M1,985eM1,516dM1,622eM1,9678M1,502bM1,5d19M1,6deaM1,8f2aM1,5f8bM1,6144M",
    "1,6817M1,7387M1,9686M1,5229M1,540fM1,5c65M1,6613M1,674eM1,68a8M1,6ce5M1,7406M1,75e2M1,7f79M1",
    ",88cfM1,88e1M1,91ccM1,96e2M1,533fM1,6ebaM1,541dM1,71d0M1,7498M1,85faM1,96a3M1,9c57M1,9e9fM1,",
    "6797M1,6dcbM1,81e8M1,7acbM1,7b20M1,7c92M1,72c0M1,7099M1,8b58M1,4ec0M1,8336M1,523aM1,5207M1,5",
    "ea6M1,62d3M1,7cd6M1,5b85M1,6d1eM1,66b4M1,8f3bM1,884cM1,964dM1,898bM1,5ed3M1,5140M1,55c0M2V1,",
    "585aM1V1,6674M2V1,51deM1,732aM1,76caM1,793cM1,795eM1,7965M1,798fM1,9756M1,7cbeM1,7fbdM1V1,86",
    "12M1V1,8af8M2V1,9038M1,90fdM3V1,98efM1,98fcM1,9928M1,9db4M1,90deM1,96b7M1,4faeM1,50e7M1,514d",
    "M1,52c9M1,52e4M1,5351M1,559dM1,5606M1,5668M1,5840M1,58a8M1,5c64M1,5c6eM1,6094M1,6168M1,618eM",
    "1,61f2M1,654fM1,65e2M1,6691M1,6885M1,6d77M1,6e1aM1,6f22M1,716eM1,722bM1,7422M1,7891M1,793eM1",
    ",7949M1,7948M1,7950M1,7956M1,795dM2,798dM1,7a40M1,7a81M1,7bc0M1,7df4M1,7e09M1,7e41M1,7f72M1,",
    "8005M1,81edM1,8279M1,8279M1,8457M1,8910M1,8996M1,8b01M1,8b39M1,8cd3M1,8d08M1,8fb6M1,9038M1,9",
    "6e3M1,97ffM1,983bM1,6075M1,242eeM1,8218M2X1,4e26M1,51b5M1,5168M1,4f80M1,5145M1,5180M1,52c7M1",
    ",52faM1,559dM1,5555M1,5599M1,55e2M1,585aM1,58b3M1,5944M1,5954M1,5a62M1,5b28M1,5ed2M1,5ed9M1,",
    "5f69M1,5fadM1,60d8M1,614eM1,6108M1,618eM1,6160M1,61f2M1,6234M1,63c4M1,641cM1,6452M1,6556M1,6",
    "674M1,6717M1,671bM1,6756M1,6b79M1,6bbaM1,6d41M1,6edbM1,6ecbM1,6f22M1,701eM1,716eM1,77a7M1,72",
    "35M1,72afM1,732aM1,7471M1,7506M1,753bM1,761dM1,761fM1,76caM1,76dbM1,76f4M1,774aM1,7740M1,78c",
    "cM1,7ab1M1,7bc0M1,7c7bM1,7d5bM1,7df4M1,7f3eM1,8005M1,8352M1,83efM1,8779M1,8941M1,8986M1,8996",
    "M1,8abfM1,8af8M1,8acbM1,8b01M1,8afeM1,8aedM1,8b39M1,8b8aM1,8d08M1,8f38M1,9072M1,9199M1,9276M",
    "1,967cM1,96e3M1,9756M1,97dbM1,97ffM1,980bM1,983bM1,9b12M1,9f9cM1,2284aM1,22844M1,233d5M1,3b9",
    "dM1,4018M1,4039M1,25249M1,25cd0M1,27ed3M1,9f43M1,9f8eM26X1,66,66M1,66,69M1,66,6cM1,66,66,69M",
    "1,66,66,6cM1,73,74M1,73,74McX1,574,576M1,574,565M1,574,56bM1,57e,576M1,574,56dM5X1,5d9,5b4M1",
    "V1,5f2,5b7M1,5e2M1,5d0M2,5d3M3,5dbM1,5e8M1,5eaM1,2bM1,5e9,5c1M1,5e9,5c2M1,5e9,5bc,5c1M1,5e9,",
    "5bc,5c2M1,5d0,5b7M1,5d0,5b8M1,5d0,5bcM1,5d1,5bcM1,5d2,5bcM1,5d3,5bcM1,5d4,5bcM1,5d5,5bcM1,5d",
    "6,5bcM1X1,5d8,5bcM1,5d9,5bcM1,5da,5bcM1,5db,5bcM1,5dc,5bcM1X1,5de,5bcM1X1,5e0,5bcM1,5e1,5bcM",
    "1X1,5e3,5bcM1,5e4,5bcM1X1,5e6,5bcM1,5e7,5bcM1,5e8,5bcM1,5e9,5bcM1,5ea,5bcM1,5d5,5b9M1,5d1,5b",
    "fM1,5db,5bfM1,5e4,5bfM1,5d0,5dcM1,671M1,671M1,67bM1,67bM1,67bM1,67bM1,67eM1,67eM1,67eM1,67eM",
    "1,680M1,680M1,680M1,680M1,67aM1,67aM1,67aM1,67aM1,67fM1,67fM1,67fM1,67fM1,679M1,679M1,679M1,",
    "679M1,6a4M1,6a4M1,6a4M1,6a4M1,6a6M1,6a6M1,6a6M1,6a6M1,684M1,684M1,684M1,684M1,683M1,683M1,68",
    "3M1,683M1,686M1,686M1,686M2,686M1,687M1,687M1,687M1,68dM1,68dM1,68cM1,68cM1,68eM1,68eM1,688M",
    "1,688M1,698M1,698M1,691M1,691M1,6a9M1,6a9M1,6a9M1,6a9M1,6afM1,6afM1,6afM1,6afM1,6b3M1,6b3M1,",
    "6b3M1,6b3M1,6b1M1,6b1M1,6b1M1,6b1M1,6baM2,6baM1,6bbM1,6bbM1,6bbM1,6c0M2,6c0M1,6c1M1,6c1M1,6c",
    "1M1,6beM1,6beM1,6beM1,6beM1,6d2M2,6d2M1,6d3M21V1,6adM1,6adM1,6adM1,6adM1,6c7M1,6c7M1,6c6M1,6",
    "c6M1,6c8M1,6c8M1,6c7,674M1,6cbM1,6cbM1,6c5M1,6c5M1,6c9M1,6c9M1,6d0M1,6d0M1,6d0M1,6d0M1,649M1",
    ",649M1,626,627M1,626,627M1,626,6d5M1,626,6d5M1,626,648M1,626,648M1,626,6c7M1,626,6c7M1,626,6",
    "c6M1,626,6c6M1,626,6c8M1,626,6c8M1,626,6d0M1,626,6d0M1,626,6d0M1,626,649M1,626,649M1,626,649",
    "M1,6ccM1,6ccM1,6ccM1,6ccM1,626,62cM1,626,62dM1,626,645M1,626,649M1,626,64aM1,628,62cM1,628,6",
    "2dM1,628,62eM1,628,645M1,628,649M1,628,64aM1,62a,62cM1,62a,62dM1,62a,62eM1,62a,645M1,62a,649",
    "M1,62a,64aM1,62b,62cM1,62b,645M1,62b,649M1,62b,64aM1,62c,62dM1,62c,645M1,62d,62cM1,62d,645M1",
    ",62e,62cM1,62e,62dM1,62e,645M1,633,62cM1,633,62dM1,633,62eM1,633,645M1,635,62dM1,635,645M1,6",
    "36,62cM1,636,62dM1,636,62eM1,636,645M1,637,62dM1,637,645M1,638,645M1,639,62cM1,639,645M1,63a",
    ",62cM1,63a,645M1,641,62cM1,641,62dM1,641,62eM1,641,645M1,641,649M1,641,64aM1,642,62dM1,642,6",
    "45M1,642,649M1,642,64aM1,643,627M1,643,62cM1,643,62dM1,643,62eM1,643,644M1,643,645M1,643,649",
    "M1,643,64aM1,644,62cM1,644,62dM1,644,62eM1,644,645M1,644,649M1,644,64aM1,645,62cM1,645,62dM1",
    ",645,62eM1,645,645M1,645,649M1,645,64aM1,646,62cM1,646,62dM1,646,62eM1,646,645M1,646,649M1,6",
    "46,64aM1,647,62cM1,647,645M1,647,649M1,647,64aM1,64a,62cM1,64a,62dM1,64a,62eM1,64a,645M1,64a",
    ",649M1,64a,64aM1,630,670M1,631,670M1,649,670M1,20,64c,651M1,20,64d,651M1,20,64e,651M1,20,64f",
    ",651M1,20,650,651M1,20,651,670M1,626,631M1,626,632M1,626,645M1,626,646M1,626,649M1,626,64aM1",
    ",628,631M1,628,632M1,628,645M1,628,646M1,628,649M1,628,64aM1,62a,631M1,62a,632M1,62a,645M1,6",
    "2a,646M1,62a,649M1,62a,64aM1,62b,631M1,62b,632M1,62b,645M1,62b,646M1,62b,649M1,62b,64aM1,641",
    ",649M1,641,64aM1,642,649M1,642,64aM1,643,627M1,643,644M1,643,645M1,643,649M1,643,64aM1,644,6",
    "45M1,644,649M1,644,64aM1,645,627M1,645,645M1,646,631M1,646,632M1,646,645M1,646,646M1,646,649",
    "M1,646,64aM1,649,670M1,64a,631M1,64a,632M1,64a,645M1,64a,646M1,64a,649M1,64a,64aM1,626,62cM1",
    ",626,62dM1,626,62eM1,626,645M1,626,647M1,628,62cM1,628,62dM1,628,62eM1,628,645M1,628,647M1,6",
    "2a,62cM1,62a,62dM1,62a,62eM1,62a,645M1,62a,647M1,62b,645M1,62c,62dM1,62c,645M1,62d,62cM1,62d",
    ",645M1,62e,62cM1,62e,645M1,633,62cM1,633,62dM1,633,62eM1,633,645M1,635,62dM1,635,62eM1,635,6",
    "45M1,636,62cM1,636,62dM1,636,62eM1,636,645M1,637,62dM1,638,645M1,639,62cM1,639,645M1,63a,62c",
    "M1,63a,645M1,641,62cM1,641,62dM1,641,62eM1,641,645M1,642,62dM1,642,645M1,643,62cM1,643,62dM1",
    ",643,62eM1,643,644M1,643,645M1,644,62cM1,644,62dM1,644,62eM1,644,645M1,644,647M1,645,62cM1,6",
    "45,62dM1,645,62eM1,645,645M1,646,62cM1,646,62dM1,646,62eM1,646,645M1,646,647M1,647,62cM1,647",
    ",645M1,647,670M1,64a,62cM1,64a,62dM1,64a,62eM1,64a,645M1,64a,647M1,626,645M1,626,647M1,628,6",
    "45M1,628,647M1,62a,645M1,62a,647M1,62b,645M1,62b,647M1,633,645M1,633,647M1,634,645M1,634,647",
    "M1,643,644M1,643,645M1,644,645M1,646,645M1,646,647M1,64a,645M1,64a,647M1,640,64e,651M1,640,6",
    "4f,651M1,640,650,651M1,637,649M1,637,64aM1,639,649M1,639,64aM1,63a,649M1,63a,64aM1,633,649M1",
    ",633,64aM1,634,649M1,634,64aM1,62d,649M1,62d,64aM1,62c,649M1,62c,64aM1,62e,649M1,62e,64aM1,6",
    "35,649M1,635,64aM1,636,649M1,636,64aM1,634,62cM1,634,62dM1,634,62eM1,634,645M1,634,631M1,633",
    ",631M1,635,631M1,636,631M1,637,649M1,637,64aM1,639,649M1,639,64aM1,63a,649M1,63a,64aM1,633,6",
    "49M1,633,64aM1,634,649M1,634,64aM1,62d,649M1,62d,64aM1,62c,649M1,62c,64aM1,62e,649M1,62e,64a",
    "M1,635,649M1,635,64aM1,636,649M1,636,64aM1,634,62cM1,634,62dM1,634,62eM1,634,645M1,634,631M1",
    ",633,631M1,635,631M1,636,631M1,634,62cM1,634,62dM1,634,62eM1,634,645M1,633,647M1,634,647M1,6",
    "37,645M1,633,62cM1,633,62dM1,633,62eM1,634,62cM1,634,62dM1,634,62eM1,637,645M1,638,645M1,627",
    ",64bM1,627,64bM12V1,62a,62c,645M1,62a,62d,62cM1,62a,62d,62cM1,62a,62d,645M1,62a,62e,645M1,62",
    "a,645,62cM1,62a,645,62dM1,62a,645,62eM1,62c,645,62dM1,62c,645,62dM1,62d,645,64aM1,62d,645,64",
    "9M1,633,62d,62cM1,633,62c,62dM1,633,62c,649M1,633,645,62dM1,633,645,62dM1,633,645,62cM1,633,",
    "645,645M1,633,645,645M1,635,62d,62dM1,635,62d,62dM1,635,645,645M1,634,62d,645M1,634,62d,645M",
    "1,634,62c,64aM1,634,645,62eM1,634,645,62eM1,634,645,645M1,634,645,645M1,636,62d,649M1,636,62",
    "e,645M1,636,62e,645M1,637,645,62dM1,637,645,62dM1,637,645,645M1,637,645,64aM1,639,62c,645M1,",
    "639,645,645M1,639,645,645M1,639,645,649M1,63a,645,645M1,63a,645,64aM1,63a,645,649M1,641,62e,",
    "645M1,641,62e,645M1,642,645,62dM1,642,645,645M1,644,62d,645M1,644,62d,64aM1,644,62d,649M1,64",
    "4,62c,62cM1,644,62c,62cM1,644,62e,645M1,644,62e,645M1,644,645,62dM1,644,645,62dM1,645,62d,62",
    "cM1,645,62d,645M1,645,62d,64aM1,645,62c,62dM1,645,62c,645M1,645,62e,62cM1,645,62e,645M2V1,64",
    "5,62c,62eM1,647,645,62cM1,647,645,645M1,646,62d,645M1,646,62d,649M1,646,62c,645M1,646,62c,64",
    "5M1,646,62c,649M1,646,645,64aM1,646,645,649M1,64a,645,645M1,64a,645,645M1,628,62e,64aM1,62a,",
    "62c,64aM1,62a,62c,649M1,62a,62e,64aM1,62a,62e,649M1,62a,645,64aM1,62a,645,649M1,62c,645,64aM",
    "1,62c,62d,649M1,62c,645,649M1,633,62e,649M1,635,62d,64aM1,634,62d,64aM1,636,62d,64aM1,644,62",
    "c,64aM1,644,645,64aM1,64a,62d,64aM1,64a,62c,64aM1,64a,645,64aM1,645,645,64aM1,642,645,64aM1,",
    "646,62d,64aM1,642,645,62dM1,644,62d,645M1,639,645,64aM1,643,645,64aM1,646,62c,62dM1,645,62e,",
    "64aM1,644,62c,645M1,643,645,645M1,644,62c,645M1,646,62c,62dM1,62c,62d,64aM1,62d,62c,64aM1,64",
    "5,62c,64aM1,641,645,64aM1,628,62d,64aM1,643,645,645M1,639,62c,645M1,635,645,645M1,633,62e,64",
    "aM1,646,62c,64aM8V20X1,635,644,6d2M1,642,644,6d2M1,627,644,644,647M1,627,643,628,631M1,645,6",
    "2d,645,62fM1,635,644,639,645M1,631,633,648,644M1,639,644,64a,647M1,648,633,644,645M1,635,644",
    ",649M1,635,644,649,20,627,644,644,647,20,639,644,64a,647,20,648,633,644,645M1,62c,644,20,62c",
    ",644,627,644,647M1,631,6cc,627,644M3V10I1,2cM1,3001M1X2,3aM1,21M1,3fM2,3016M7X10V1X1,2014M1,",
    "2013M1,5fM1,5fM2,28M1,7bM1,7dM2,3014M2,3010M2,300aM2,3008M4,300cM2V1,5bM1,5dM1,20,305M1,20,3",
    "05M1,20,305M1,20,305M1,5fM1,5fM1,5fM1,2cM1,3001M2X1,3bM1,3aM1,3fM1,21M1,2014M2,28M1,7bM1,7dM",
    "2,3014M1,23M1,26M2,2aM1,2dM1,3cM1,3eM1,3dM1X1,5cM2,24M1,40M4X1,20,64bM1,640,64bM1,20,64cM1V1",
    ",20,64dM1X1,20,64eM1,640,64eM1,20,64fM1,640,64fM1,20,650M1,640,650M1,20,651M1,640,651M1,20,6",
    "52M1,640,652M2,621M2,622M2,623M2,624M2,625M1,626M1,626M2,626M2,627M1,628M1,628M2,628M2,629M1",
    ",62aM1,62aM2,62aM1,62bM1,62bM2,62bM1,62cM1,62cM2,62cM1,62dM1,62dM2,62dM1,62eM1,62eM2,62eM2,6",
    "2fM2,630M2,631M2,632M1,633M1,633M2,633M1,634M1,634M2,634M1,635M1,635M2,635M1,636M1,636M2,636",
    "M1,637M1,637M2,637M1,638M1,638M2,638M1,639M1,639M2,639M1,63aM1,63aM1,63aM1,641M1,641M1,641M2",
    ",641M1,642M1,642M2,642M1,643M1,643M2,643M1,644M1,644M2,644M1,645M1,645M2,645M1,646M1,646M2,6",
    "46M1,647M1,647M2,647M2,648M2,649M1,64aM1,64aM1,64aM1,644,622M1,644,622M1,644,623M1,644,623M1",
    ",644,625M1,644,625M1,644,627M1,644,627M2X1I1X20,21M1a,61M24,5bM2,2985M1,2eM2,300cM1,3001M1,3",
    "0fbM1,30f2M1,30a1M1,30a3M1,30a5M1,30a7M1,30a9M1,30e3M1,30e5M1,30e7M1,30c3M1,30fcM1,30a2M1,30",
    "a4M1,30a6M1,30a8M2,30aaM1,30adM1,30afM1,30b1M1,30b3M1,30b5M1,30b7M1,30b9M1,30bbM1,30bdM1,30b",
    "fM1,30c1M1,30c4M1,30c6M1,30c8M6,30caM1,30d2M1,30d5M1,30d8M1,30dbM5,30deM1,30e4M1,30e6M6,30e8",
    "M1,30efM1,30f3M2,3099M1I2,1100M1,11aaM1,1102M2,11acM3,1103M6,11b0M1,111aM3,1106M1,1121Ma,110",
    "9M3X6,1161M2X6,1167M2X6,116dM2X3,1173M3X2,a2M1,acM1,20,304M1,a6M1,a5M1,20a9M1X1,2502M4,2190M",
    "1,25a0M1,25cbM11XcV1X1aV1X13V1X2V1XfV2XeV22X7bV5X3V4X2dV3X58V1XdV3X1V2fX2eV82X1dV3X31VfX1cV4",
    "X24V9X1eV5X2bV5X1eV1X25V4XeV2aX28,10428M76V2XaV6X24,104d8M4X24V4X28V8X34VbX1Vb,10597M1Xf,105",
    "a3M1X7,105b3M1X2,105bbM1XbV1XfV1X7V1X2V3X34VcX137V9X16VaX8V18X1V2,2d0M1,e6M1,299M1,253M1X1,2",
    "a3M1,ab66M1,2a5M1,2a4M2,256M1,1d91M1,258M1,25eM1,2a9M1,264M1,262M1,260M1,29bM1,127M1,29cM1,2",
    "67M1,284M2,2aaM1,26cM1,1df04M1,a78eM1,26eM1,1df05M1,28eM1,1df06M1,f8M2,276M1,71M1,27aM1,1df0",
    "8M2,27dM1,280M1,2a8M1,2a6M1,ab67M1,2a7M1,288M1,2c71M1X1,28fM2,2a1M1,298M3,1c0M1,1df0aM1,1df1",
    "eM45X6V2X1V1X2cV1X2V3X1V2X17V1X48V8X9V30X13V1X2V5X21V3X1bV5X1bV26X38V4X14V2X32V1X2V5X8V1X3V1",
    "X1dV2X3V4XaV7X9V7X40V20X27V4XcV9X36V3X1dV2X1bV5X1aV7X4VcX7V50X49V37X33,10cc0MdX33V7X2eV8XaV6",
    "X10V16,10d70M3X1dV8X2Vd0X1fV1X2aV1X3V2X2V10X6V8X9V21X2eV8X2aV16X1aV26X1cV14X17V9X4eV4X24V9X3",
    "eV1X5VdX19V7XaV6X35V1X12V8X27V9X60V1X14VbX12V1X2fV3eX7V1X1V1X4V1XfV1XbV6X3bV5XaV6X4V1X8V2X2V",
    "2X16V1X7V1X2V1X5V1XaV2X2V2X3V2X1V6X1V5X7V2X7V3X5VbXaV1X1V2X1V1X26V1XaV1X1V2X1V1X4V1XaV1X2V8X",
    "2V1dX5cV1X5V1eX48V8XaVa6X36V2X26V22X45VbXaV6XdV13X3aV6XaV6X14V1cX1bV2XfV4X17Vb9X3cV64X20,118",
    "c0M33VcX8V2X1V2X8V1X2V1X1eV1X2V2XcV9XaV46X8V2X2eV2XbV1bX48V8X53VdX49V7XaV56X8V58X22VeXaV6X9V",
    "1X2dV1XeVaX1dV3X20V2X16V1XeV49X7V1X2V1X2cV3X1V1X2V1X9V8XaV6X6V1X2V1X25V1X2V1X6V7XaV6X2cV4XaV",
    "f6X19V7X11V1X29V3X1dV55X1VfX32VdX39bV66X6fV1X5VbXc4Va4cX63VdX430V10X16VaXf9bV5X247V1ab9X3aV6",
    "c6X239V7X1fV1XaV4X51V1XaV6X1eV2X6VaX46VaXaV1X7V1X15V5X13V1b0X3aVc6X20,16e60M3bV5X19,16ebbM2X",
    "19V2cX4bV4X39V7X11V40X5VbX7V9X1cd6V29X20V61X73V21fdX4V1X7V1X2V1X123VfX1V1dX3V2X1VeX4V8X18cV9",
    "04X6bV5XdV3X9V7XaV2X4V4If5cXd6V1a,61Ma,30M3V3X1b4V6X17VfX11VfX2eV2X17V9X74V3cXf6VaX27V2X35V1",
    ",1d157,1d165M1,1d158,1d165M1,1d158,1d165,1d16eM1,1d158,1d165,1d16fM1,1d158,1d165,1d170M1,1d1",
    "58,1d165,1d171M1,1d158,1d165,1d172MeV8I40V1,1d1b9,1d165M1,1d1ba,1d165M1,1d1b9,1d165,1d16eM1,",
    "1d1ba,1d165,1d16eM1,1d1b9,1d165,1d16fM1,1d1ba,1d165,1d16fM2aV15X46V7aX14VcX14VcX57V9X19V87X1",
    "a,61M1a,61M1a,61M7,61M1X12,69M1a,61M1a,61M1,61M1X2,63M2X1,67M2X2,6aM2X4,6eM1X8,73M4,61M1X1,6",
    "6M1X7,68M1Xb,70M1a,61M1a,61M2,61M1X4,64M2X8,6aM1X7,73M1X1a,61M2,61M1X4,64M1X5,69M1X1,6fM3X7,",
    "73M1X1a,61M1a,61M1a,61M1a,61M1a,61M1a,61M1a,61M1a,61M1a,61M1a,61M1a,61M1a,61M1a,61M1,131M1,2",
    "37M2X11,3b1M1,3b8M7,3c3M1,2207M11,3b1M1,3c3M7,3c3M1,2202M1,3b5M1,3b8M1,3baM1,3c6M1,3c1M1,3c0",
    "M11,3b1M1,3b8M7,3c3M1,2207M11,3b1M1,3c3M7,3c3M1,2202M1,3b5M1,3b8M1,3baM1,3c6M1,3c1M1,3c0M11,",
    "3b1M1,3b8M7,3c3M1,2207M11,3b1M1,3c3M7,3c3M1,2202M1,3b5M1,3b8M1,3baM1,3c6M1,3c1M1,3c0M11,3b1M",
    "1,3b8M7,3c3M1,2207M11,3b1M1,3c3M7,3c3M1,2202M1,3b5M1,3b8M1,3baM1,3c6M1,3c1M1,3c0M11,3b1M1,3b",
    "8M7,3c3M1,2207M11,3b1M1,3c3M7,3c3M1,2202M1,3b5M1,3b8M1,3baM1,3c6M1,3c1M1,3c0M1,3ddM1,3ddM2Xa",
    ",30Ma,30Ma,30Ma,30Ma,30M28cVfX5V1XfV450X1fV6X6Vd5X7V1X11V2X7V1X2V1X5V5X9,430M3,43aMb,43eM1,4",
    "4bM2,44dM1,a689M1,4d9M1,456M1,458M1,4e9M1,4afM1,4cfM9,430M2,43aM2,43eM1,441M6,443M2,44aM1,49",
    "1M1,456M1,455M1,45fM1,4abM1,a651M1,4b1M21X1V70X2dV3XeV2XaV4X2V140X1fV11X3aV5X1V1d0X2aVd6X2bV",
    "4X1Vc0X1fV1X16V8X2Ve0X7V1X4V1X2V1XfV1Xc5V2X10V29X22,1e922M2aV4XaV4X2V311X44V4cX3dVc2X2,627M1",
    ",62cM1,62fM1X1,648M1,632M1,62dM1,637M1,64aM4,643M1,633M1,639M1,641M1,635M1,642M1,631M1,634M2",
    ",62aM1,62eM1,630M1,636M1,638M1,63aM1,66eM1,6baM1,6a1M1,66fM1X1,628M1,62cM1X1,647M2X1,62dM1X1",
    ",64aM4,643M1,633M1,639M1,641M1,635M1,642M1X1,634M2,62aM1,62eM1X1,636M1X1,63aM6X1,62cM4X1,62d",
    "M1X1,64aM1X1,644M1X1,646M1,633M1,639M1X1,635M1,642M1X1,634M2X1,62eM1X1,636M1X1,63aM1X1,6baM1",
    "X1,66fM1X1,628M1,62cM1X1,647M2X1,62dM1,637M1,64aM1,643M1X2,645M1,633M1,639M1,641M1,635M1,642",
    "M1X1,634M2,62aM1,62eM1X1,636M1,638M1,63aM1,66eM1X1,6a1M1X2,627M1,62cM1,62fM2,647M1,632M1,62d",
    "M1,637M1,64aM1X3,644M1,633M1,639M1,641M1,635M1,642M1,631M1,634M2,62aM1,62eM1,630M1,636M1,638",
    "M1,63aM5X1,628M1,62cM1,62fM1X1,648M1,632M1,62dM1,637M1,64aM1X3,644M1,633M1,639M1,641M1,635M1",
    ",642M1,631M1,634M2,62aM1,62eM1,630M1,636M1,638M1,63aM34X2V10eX2cV4X64VcXfV2XfV1XfV1X25VbX1,3",
    "0,2cM1,31,2cM1,32,2cM1,33,2cM1,34,2cM1,35,2cM1,36,2cM1,37,2cM1,38,2cM1,39,2cM5V1,28,61,29M1,",
    "28,62,29M1,28,63,29M1,28,64,29M1,28,65,29M1,28,66,29M1,28,67,29M1,28,68,29M1,28,69,29M1,28,6",
    "a,29M1,28,6b,29M1,28,6c,29M1,28,6d,29M1,28,6e,29M1,28,6f,29M1,28,70,29M1,28,71,29M1,28,72,29",
    "M1,28,73,29M1,28,74,29M1,28,75,29M1,28,76,29M1,28,77,29M1,28,78,29M1,28,79,29M1,28,7a,29M1,3",
    "014,73,3015M1,63M1,72M1,63,64M1,77,7aM1V1a,61M1,68,76M1,6d,76M1,73,64M1,73,73M1,70,70,76M1,7",
    "7,63M1aV1,6d,63M1,6d,64M1,6d,72M23V1,64,6aM1dV38X1aV1,307b,304bM1,30b3,30b3M1,30b5MdX1,624bM",
    "1,5b57M1,53ccM1,30c7M1,4e8cM1,591aM1,89e3M1,5929M1,4ea4M1,6620M1,7121M1,6599M1,524dM1,5f8cM1",
    ",518dM1,65b0M1,521dM1,7d42M1,751fM1,8ca9M1,58f0M1,5439M1,6f14M1,6295M1,6355M1,4e00M1,4e09M1,",
    "904aM1,5de6M1,4e2dM1,53f3M1,6307M1,8d70M1,6253M1,7981M1,7a7aM1,5408M1,6e80M1,6709M1,6708M1,7",
    "533M1,5272M1,55b6M1,914dM4X1,3014,672c,3015M1,3014,4e09,3015M1,3014,4e8c,3015M1,3014,5b89,30",
    "15M1,3014,70b9,3015M1,3014,6253,3015M1,3014,76d7,3015M1,3014,52dd,3015M1,3014,6557,3015M7X1,",
    "5f97M1,53efMeX6V9aX3d9V3X11V3XdV3XdaV6XcV4X1VfXcV4X38V8XaV6X28V8X1eV2XcV4X2VeX9V27X158V8XeV2",
    "XdV3XbV3X39V1X1V4X10V2XcV4XaV7X93V1X5cVa,30M1V405Xa6e0V20X111eV2X168eV2X1d31VfX26eV9a2X1,4e3",
    "dM1,4e38M1,4e41M1,20122M1,4f60M1,4faeM1,4fbbM1,5002M1,507aM1,5099M1,50e7M1,50cfM1,349eM1,206",
    "3aM1,514dM1,5154M1,5164M1,5177M1,2051cM1,34b9M1,5167M1,518dM1,2054bM1,5197M1,51a4M1,4eccM1,5",
    "1acM1,51b5M1,291dfM1,51f5M1,5203M1,34dfM1,523bM1,5246M1,5272M1,5277M1,3515M1,52c7M1,52c9M1,5",
    "2e4M1,52faM2,5305M1,5317M1,5349M1,5351M1,535aM1,5373M1,537dM1,537fM1,537fM1,537fM1,20a2cM1,7",
    "070M1,53caM1,53dfM1,20b63M1,53ebM1,53f1M1,5406M1,549eM1,5438M1,5448M1,5468M1,54a2M1,54f6M1,5",
    "510M1,5553M1,5563M1,5584M1,5584M1,5599M1,55abM1,55b3M1,55c2M1,5716M1,5606M1,5717M1,5651M1,56",
    "74M1,5207M1,58eeM1,57ceM1,57f4M1,580dM1,578bM1,5832M1,5831M1,58acM1,214e4M1,58f2M1,58f7M1,59",
    "06M1,591aM1,5922M1,5962M1,216a8M1,216eaM1,59ecM1,5a1bM1,5a27M1,59d8M1,5a66M1,36eeM1,36fcM1,5",
    "b08M1,5b3eM1,5b3eM1,219c8M1,5bc3M1,5bd8M1,5be7M1,5bf3M1,21b18M1,5bffM1,5c06M1,5f53M1,5c22M1,",
    "3781M1,5c60M1,5c6eM1,5cc0M1,5c8dM1,21de4M1,5d43M1,21de6M1,5d6eM1,5d6bM1,5d7cM2,5de1M1,382fM1",
    ",5dfdM1,5e28M1,5e3dM1,5e69M1,3862M1,22183M1,387cM1,5eb0M1,5eb3M1,5eb6M1,5ecaM1,2a392M1,5efeM",
    "1,22331M1,22331M1,8201M1,5f22M1,5f22M1,38c7M1,232b8M1,261daM1,5f62M1,5f6bM1,38e3M1,5f9aM1,5f",
    "cdM1,5fd7M1,5ff9M1,6081M1,393aM1,391cM1,6094M1,226d4M1,60c7M1,6148M1,614cM1,614eM1,614cM1,61",
    "7aM1,618eM1,61b2M1,61a4M1,61afM1,61deM1,61f2M1,61f6M1,6210M1,621bM1,625dM1,62b1M1,62d4M1,635",
    "0M1,22b0cM1,633dM1,62fcM1,6368M1,6383M1,63e4M1,22bf1M1,6422M1,63c5M1,63a9M1,3a2eM1,6469M1,64",
    "7eM1,649dM1,6477M1,3a6cM1,654fM1,656cM1,2300aM1,65e3M1,66f8M1,6649M1,3b19M1,6691M1,3b08M1,3a",
    "e4M1,5192M1,5195M1,6700M1,669cM1,80adM1,43d9M1,6717M1,671bM1,6721M1,675eM1,6753M1,233c3M1,3b",
    "49M1,67faM1,6785M1,6852M1,6885M1,2346dM1,688eM1,681fM1,6914M1,3b9dM1,6942M1,69a3M1,69eaM1,6a",
    "a8M1,236a3M1,6adbM1,3c18M1,6b21M1,238a7M1,6b54M1,3c4eM1,6b72M1,6b9fM2,6bbaM1,23a8dM1,21d0bM1",
    ",23afaM1,6c4eM1,23cbcM1,6cbfM1,6ccdM1,6c67M1,6d16M1,6d3eM1,6d77M1,6d41M1,6d69M1,6d78M1,6d85M",
    "1,23d1eM1,6d34M1,6e2fM1,6e6eM1,3d33M1,6ecbM1,6ec7M1,23ed1M1,6df9M1,6f6eM1,23f5eM1,23f8eM1,6f",
    "c6M1,7039M1,701eM1,701bM1,3d96M1,704aM1,707dM1,7077M1,70adM1,20525M1,7145M1,24263M1,719cM1,2",
    "43abM1,7228M1,7235M1,7250M1,24608M1,7280M1,7295M1,24735M1,24814M1,737aM1,738bM1,3eacM1,73a5M",
    "1,3eb8M1,3eb8M1,7447M1,745cM1,7471M1,7485M1,74caM1,3f1bM1,7524M1,24c36M1,753eM1,24c92M1,7570",
    "M1,2219fM1,7610M1,24fa1M1,24fb8M1,25044M1,3ffcM1,4008M1,76f4M1,250f3M1,250f2M1,25119M1,25133",
    "M2,771eM1,771fM1,774aM1,4039M1,778bM1,4046M1,4096M1,2541dM1,784eM1,788cM1,78ccM1,40e3M1,2562",
    "6M1,7956M1,2569aM1,256c5M1,798fM1,79ebM1,412fM1,7a40M1,7a4aM1,7a4fM1,2597cM1,25aa7M1,25aa7M1",
    ",7aeeM1,4202M1,25babM1,7bc6M1,7bc9M1,4227M1,25c80M1,7cd2M1,42a0M1,7ce8M1,7ce3M1,7d00M1,25f86",
    "M1,7d63M1,4301M1,7dc7M1,7e02M1,7e45M1,4334M1,26228M1,26247M1,4359M1,262d9M1,7f7aM1,2633eM1,7",
    "f95M1,7ffaM1,8005M1,264daM1,26523M1,8060M1,265a8M1,8070M1,2335fM1,43d5M1,80b2M1,8103M1,440bM",
    "1,813eM1,5ab5M1,267a7M1,267b5M1,23393M1,2339cM1,8201M1,8204M1,8f9eM1,446bM1,8291M1,828bM1,82",
    "9dM1,52b3M1,82b1M1,82b3M1,82bdM1,82e6M1,26b3cM1,82e5M1,831dM1,8363M1,83adM1,8323M1,83bdM1,83",
    "e7M1,8457M1,8353M1,83caM1,83ccM1,83dcM1,26c36M1,26d6bM1,26cd5M1,452bM1,84f1M1,84f3M1,8516M1,",
    "273caM1,8564M1,26f2cM1,455dM1,4561M1,26fb1M1,270d2M1,456bM1,8650M1,865cM1,8667M1,8669M1,86a9",
    "M1,8688M1,870eM1,86e2M1,8779M1,8728M1,876bM1,8786M1,45d7M1,87e1M1,8801M1,45f9M1,8860M1,8863M",
    "1,27667M1,88d7M1,88deM1,4635M1,88faM1,34bbM1,278aeM1,27966M1,46beM1,46c7M1,8aa0M1,8aedM1,8b8",
    "aM1,8c55M1,27ca8M1,8cabM1,8cc1M1,8d1bM1,8d77M1,27f2fM1,20804M1,8dcbM1,8dbcM1,8df0M1,208deM1,",
    "8ed4M1,8f38M1,285d2M1,285edM1,9094M1,90f1M1,9111M1,2872eM1,911bM1,9238M2,92d7M1,927cM1,93f9M",
    "1,9415M1,28bfaM1,958bM1,4995M1,95b7M1,28d77M1,49e6M1,96c3M1,5db2M1,9723M1,29145M1,2921aM1,4a",
    "6eM1,4a76M1,97e0M1,2940aM1,4ab2M1,29496M1,980bM1,980bM1,9829M1,295b6M1,98e2M1,4b33M1,9929M1,",
    "99a7M1,99c2M1,99feM1,4bceM1,29b30M1,9b12M1,9c40M1,9cfdM1,4cceM1,4cedM1,9d67M1,2a0ceM1,4cf8M1",
    ",2a105M1,2a20eM1,2a291M1,9ebbM1,4d56M1,9ef9M1,9efeM1,9f05M1,9f0fM1,9f16M1,9f3bM1,2a600M5e2X1",
    "34bV5X212aVacc86Xf0I2fe10X"]

/-- The mapping of every code point. -/
def hostMappingTable : Table := Table.ofLines hostMappingLines

/-- What becomes of a character of a host name. -/
inductive HostMapping where
  /-- It stays. -/
  | kept
  /-- It vanishes. -/
  | ignored
  /-- It is replaced. -/
  | replaced (target : List Char)
  /-- It makes the name invalid. -/
  | refused
  deriving DecidableEq, Repr

/-- What becomes of a character of a host name. -/
def hostMapping (c : Char) : HostMapping :=
  let code := c.toNat
  match hostMappingTable.find? code with
  | some ⟨_, 'V', _⟩ => .kept
  | some ⟨_, 'I', _⟩ => .ignored
  | some ⟨first, 'P', _⟩ =>
    if (code - first) % 2 = 0 then .replaced [Char.ofNat (code + 1)] else .kept
  | some ⟨first, 'M', [target]⟩ => .replaced [Char.ofNat (target + (code - first))]
  | some ⟨_, 'M', targets⟩ => .replaced (targets.map Char.ofNat)
  | _ => .refused

end Unicode
end LinkFacts
